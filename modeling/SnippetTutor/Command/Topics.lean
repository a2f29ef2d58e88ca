import SnippetTutor.Command.Request
import SnippetTutor.Command.Surroundings
import SnippetTutor.Console.Item

/-!
# The list of topics as a command

The command shows the topics of the curriculum layer by layer.
-/

namespace SnippetTutor.Command.Topics

open Console

/-- The row of a topic. -/
def row (topic : Topic) : List String :=
  [topic.slug.shown, topic.name.shown, topic.category.shown, topic.criticality.shown]

/-- The topics of a layer. -/
def layerItems (curriculum : Curriculum) (layer : Layer) : List Item :=
  let info := layer.info
  [Item.heading (info.name.toUpper ++ " (" ++ info.priority ++ ")"),
   .line (styled "dim" info.description),
   .table ["Slug", "Name", "Category", "Criticality"] ((curriculum.inLayer layer).map row)]

/-- The layers that are listed. -/
def layersOf : Option Layer → List Layer
  | some layer => [layer]
  | none => Layer.all

/-- The topics on the console. -/
def screen (surroundings : Surroundings) (options : TopicsOptions) : Except Crash (List Item) := do
  let curriculum ← surroundings.curriculum (← surroundings.configAt options.root)
  return (layersOf options.layer).flatMap (layerItems curriculum)

end SnippetTutor.Command.Topics
