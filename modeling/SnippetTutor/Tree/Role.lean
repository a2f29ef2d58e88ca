/-!
# Roles of children

A grammar names the part that a child plays under its parent: the `body` of a function, the
`left` side of an assignment. `Role` lists the parts that the analysis asks for; a child that
plays any other part, or none, has no role.
-/

namespace SnippetTutor

/-- The part a child plays under its parent. -/
inductive Role where
  | alternative
  | argument
  | arguments
  | body
  | condition
  | consequence
  | constructor
  | declaration
  | finalizer
  | flags
  | function
  | handler
  | increment
  | index
  | initializer
  | key
  | left
  | name
  | object
  | openTag
  | operator
  | parameter
  | parameters
  | pattern
  | property
  | right
  | source
  | value
  deriving DecidableEq, Repr

namespace Role

/-- The roles under the names that the grammars give them. -/
def table : List (String × Role) :=
  [("alternative", .alternative), ("argument", .argument), ("arguments", .arguments),
   ("body", .body), ("condition", .condition), ("consequence", .consequence),
   ("constructor", .constructor), ("declaration", .declaration), ("finalizer", .finalizer),
   ("flags", .flags), ("function", .function), ("handler", .handler),
   ("increment", .increment), ("index", .index), ("initializer", .initializer),
   ("key", .key), ("left", .left), ("name", .name), ("object", .object),
   ("open_tag", .openTag), ("operator", .operator), ("parameter", .parameter),
   ("parameters", .parameters), ("pattern", .pattern), ("property", .property),
   ("right", .right), ("source", .source), ("value", .value)]

/-- The role with the given grammar name. -/
def ofName? (name : String) : Option Role := table.lookup name

end Role

end SnippetTutor
