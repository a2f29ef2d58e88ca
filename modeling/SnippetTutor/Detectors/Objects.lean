import SnippetTutor.Detector.Basic

/-!
# Objects and classes

* `objects`: static methods of objects, access to properties and checks for them;
* `classes`: classes and their members.
-/

namespace SnippetTutor.Detectors.Objects

variable {root : Tree}

/-! ### Objects -/

/-- Calls of static methods of objects, the first for every method that has a text. -/
def staticTexts (context : Context root) (textOf : Keyed String) : List (Finding root) :=
  keepFirst Finding.details
    ((context.staticCalls "Object" textOf.keys).filterMap fun (call, method) =>
      (textOf.get? method).map fun details => .of .idiom call details)

/-- Listing keys, values and entries. -/
def keysValuesEntries (context : Context root) : List (Finding root) :=
  staticTexts context
    [("keys", "Object.keys() used"), ("values", "Object.values() used"),
     ("entries", "Object.entries() used")]

/-- Merging and freezing. -/
def assignFreeze (context : Context root) : List (Finding root) :=
  staticTexts context
    [("assign", "Object.assign() used for object merging"),
     ("freeze", "Object.freeze() used for immutability")]

/-- Building from entries. -/
def fromEntries (context : Context root) : List (Finding root) :=
  staticTexts context
    [("fromEntries", "Object.fromEntries() used to build object from entries")]

/-- Whether a pair or a method of an object literal has a computed name. -/
def hasComputedName (node : Node root) : Bool :=
  if node.kind == .pair then node.isComputedKey
  else
    Node.kindOf node.parent? == .object &&
      Node.kindOf (node.field .name) == .computedPropertyName

/-- A computed name in an object literal. -/
def computedPropertyNames (context : Context root) : List (Finding root) :=
  ((context.ofKinds [.pair, .methodDefinition]).find? hasComputedName).toList.map fun node =>
    .of .idiom node "Computed property name [expr] used in object"

/-- The first access with a dot, and the first one with a string in brackets. -/
def propertyAccess (context : Context root) : List (Finding root) :=
  keepFirst Finding.details
    ((context.ofKinds [.memberExpression, .subscriptExpression]).filterMap fun node =>
      if node.kind == .memberExpression then
        if node.isPrivateMember then none
        else some (.of .idiom node "Dot notation property access")
      else if node.subscriptIndex.any Node.isStringLiteral then
        some (.of .minorGood node
          "Bracket notation with string literal — dot notation may be clearer")
      else none)

/-- The first check with `in` and the first call of a method that checks. -/
def propertyExistence (context : Context root) : List (Finding root) :=
  let operator? := (context.ofKind .binaryExpression).find? fun node => node.hasOperator "in"
  let method? := (context.methodCalls ["hasOwnProperty", "hasOwn"]).head?
  let found :=
    (operator?.map fun node =>
      (node, Finding.of .idiom node "'in' operator used for property existence check")).toList ++
    (method?.map fun (call, method) =>
      (call, Finding.of (.idiomOrGood (method == "hasOwn")) call
        ("." ++ method ++ "() used for property check"))).toList
  (found.mergeSort fun first second => first.1.beginsBefore second.1).map Prod.snd

/-- Detectors of objects. -/
def objects : Collection where
  suite :=
    { name := "object_methods"
      category := "objects"
      order := 90
      home := "codecoach.rules.javascript.object_methods" }
  detectors :=
    [.of "find_keys_values_entries" "object-keys-values-entries" keysValuesEntries,
     .of "find_assign_freeze" "object-assign-freeze" assignFreeze,
     .of "find_from_entries" "object-fromEntries" fromEntries,
     .of "find_computed_property_names" "computed-property-names" computedPropertyNames,
     .of "find_property_access_patterns" "property-access-patterns" propertyAccess,
     .of "find_property_existence_check" "property-existence-check" propertyExistence]

/-! ### Classes -/

/-- Whether a name is private. -/
def isPrivate (name? : Option (Node root)) : Bool :=
  Node.kindOf name? == .privatePropertyIdentifier

/-- The methods of classes with a public name. -/
def publicMethods (context : Context root) : List (Node root) :=
  (context.ofKind .methodDefinition).filter fun node =>
    Node.kindOf node.parent? == .classBody && !isPrivate (node.field .name)

/-- The name of a method as messages show it. -/
def shownName (node : Node root) : String := node.functionName.getD "None"

/-- A class. -/
def classDeclaration (context : Context root) : List (Finding root) :=
  ((context.ofKinds Node.classKinds).take 1).map fun node =>
    match node.functionName with
    | some "" | none => .of .idiom node "Class expression used"
    | some name => .of .idiom node ("Class '" ++ name ++ "' declared")

/-- A constructor or an ordinary method. -/
def classMethods (context : Context root) : List (Finding root) :=
  ((publicMethods context).filterMap fun node =>
    match node.methodWord with
    | "constructor" => some (.of .idiom node "Class constructor defined")
    | "method" => some (.of .idiom node ("Class method '" ++ shownName node ++ "' defined"))
    | _ => none).take 1

/-- The superclass as messages show it. -/
def shownParent (parent : Node root) : String :=
  match parent.identifierName with
  | some "" | none => "parent class"
  | some name => name

/-- A class that extends another one. -/
def classInheritance (context : Context root) : List (Finding root) :=
  ((context.ofKinds Node.classKinds).filterMap fun node =>
    node.classSuperclass.map fun parent =>
      .of .idiom node ("Class extends " ++ shownParent parent)).take 1

/-- A method that reads or writes like a property. -/
def gettersSetters (context : Context root) : List (Finding root) :=
  ((publicMethods context).find? fun node =>
    node.methodWord == "get" || node.methodWord == "set").toList.map fun node =>
      .of .idiom node
        ("Class " ++ node.methodWord ++ "ter '" ++ shownName node ++ "' defined")

/-- A private member. -/
def privateFields (context : Context root) : List (Finding root) :=
  ((context.ofKinds [.fieldDefinition, .methodDefinition]).find? fun node =>
    isPrivate
      (if node.kind == .fieldDefinition then node.fieldNameNode else node.field .name)).toList.map
    fun node => .of .idiom node "Private class member (#) used"

/-- A public field. -/
def properties (context : Context root) : List (Finding root) :=
  ((context.ofKind .fieldDefinition).filterMap fun node =>
    node.fieldNameNode.bind fun name =>
      if isPrivate (some name) then none
      else some (.of .idiom node ("Class property '" ++ name.text ++ "' declared"))).take 1

/-- Detectors of classes. -/
def classes : Collection where
  suite :=
    { name := "class_syntax"
      category := "classes"
      order := 140
      home := "codecoach.rules.javascript.class_syntax" }
  detectors :=
    [.of "find_class_declaration" "class-declaration" classDeclaration,
     .of "find_class_methods" "class-methods" classMethods,
     .of "find_class_inheritance" "class-inheritance" classInheritance,
     .of "find_class_getters_setters" "class-getters-setters" gettersSetters,
     .of "find_class_private_fields" "class-private-fields" privateFields,
     .of "find_class_properties" "class-properties" properties]

end SnippetTutor.Detectors.Objects
