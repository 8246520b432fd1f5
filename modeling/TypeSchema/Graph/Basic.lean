import TypeSchema.Literal.Enumeration

/-!
# Type graphs

A type graph is what a type checker knows about a program's types after resolving every name: an
array of types, an array of symbols, and the table of declarations.  Types and symbols refer to each
other by their positions, so a graph may be cyclic; whether every position in it is one that exists
is the subject of `TypeSchema.Graph.Validity`.
-/

set_option autoImplicit false

namespace TypeSchema

/-- The position of a type in its graph. -/
structure TypeId where
  index : UInt32
deriving DecidableEq, Inhabited, Repr, Hashable

/-- The position of a symbol in its graph. -/
structure SymbolId where
  index : UInt32
deriving DecidableEq, Inhabited, Repr, Hashable

/-- The position as it is written in messages. -/
def TypeId.text (id : TypeId) : String :=
  "#" ++ toString id.index.toNat

/-- The position as it is written in messages. -/
def SymbolId.text (id : SymbolId) : String :=
  "@" ++ toString id.index.toNat

/-! ## Symbols -/

/-- The kinds of pieces a doc comment consists of. -/
inductive DocPartKind
  | text
  | link
  | linkText
deriving DecidableEq, Inhabited, Repr

/-- A piece of a doc comment. -/
structure DocPart where
  kind : DocPartKind
  text : String
deriving DecidableEq, Inhabited

/-- A tag of a doc comment, such as `@ignore`, with the text after it. -/
structure DocTag where
  name : String
  text : Option String
deriving DecidableEq, Inhabited

/-- What a declaration declares. -/
inductive DeclarationKind
  | classType
  | interface
  | typeAlias
  | enum
  | enumMember
  | typeLiteral
  | mappedType
  | property
  | other
deriving DecidableEq, Inhabited, Repr

/-- Where a symbol is declared. -/
structure Declaration where
  file : String
  position : UInt32
  kind : DeclarationKind
  isAbstract : Bool
deriving DecidableEq, Inhabited

/-- A named entity of the program with its documentation. -/
structure Symbol where
  name : String
  /-- The name with its enclosing scopes, where it differs from `name`. -/
  qualifiedName : Option String := none
  documentation : List DocPart := []
  tags : List DocTag := []
  declaration : Option Declaration := none
  /-- Whether the symbol belongs to the language's own library. -/
  isBuiltin : Bool := false
deriving DecidableEq, Inhabited

/-- The name a type checker gives the symbol of a type literal. -/
def typeLiteralName : String := "__type"

namespace Symbol

/-- The name with its enclosing scopes. -/
def fullName (symbol : Symbol) : String :=
  symbol.qualifiedName.getD symbol.name

/-- Whether the symbol is declared abstract. -/
def isAbstract (symbol : Symbol) : Bool :=
  symbol.declaration.any Declaration.isAbstract

end Symbol

/-! ## Types -/

/-- A property of an object type. -/
structure Property where
  symbol : SymbolId
  type : TypeId
  isOptional : Bool := false
  isMethod : Bool := false
  isPrivate : Bool := false
  /-- The symbol that the property's type annotation names. -/
  referenced : Option SymbolId := none
  initializer : Option String := none
deriving DecidableEq, Inhabited

/-- The structure of a type. -/
inductive TypeKind
  | string
  | number
  | boolean
  | null
  | undefined
  | void
  | any
  | unknown
  | never
  /-- The keyword `object`. -/
  | nonPrimitive
  | stringLiteral (value : String)
  | numberLiteral (value : Float)
  | booleanLiteral (value : Bool)
  | enumLiteral (value : String)
  | union (members : List TypeId)
  | intersection (members : List TypeId)
  | tuple (elements : List TypeId) (minLength : Nat) (hasRest : Bool)
  /-- `index` is the value type of a string index signature. -/
  | object (properties : List Property) (anonymous : Bool) (index : Option TypeId)
  | enum (members : List EnumMember)
  | typeParameter
deriving DecidableEq, Inhabited

/-- A type: its structure and the names it goes by. -/
structure TypeNode where
  kind : TypeKind
  symbol : Option SymbolId := none
  aliasSymbol : Option SymbolId := none
  aliasArguments : List TypeId := []
  /-- The element type of an array. -/
  numberIndex : Option TypeId := none
  baseTypes : List TypeId := []
deriving DecidableEq, Inhabited

namespace TypeNode

/-- Whether the type is an object literal type without a name of its own. -/
def isAnonymousObject (node : TypeNode) : Bool :=
  match node.kind with
  | .object _ anonymous _ => anonymous
  | _ => false

/-- The properties of an object type. -/
def properties (node : TypeNode) : List Property :=
  match node.kind with
  | .object properties _ _ => properties
  | _ => []

/-- The symbol whose declaration names the type: the alias if there is one. -/
def namingSymbol (node : TypeNode) : Option SymbolId :=
  node.aliasSymbol <|> node.symbol

end TypeNode

/-! ## Diagnostics and graphs -/

/-- A problem the type checker reported. -/
structure Diagnostic where
  message : String
  file : Option String := none
  line : Option UInt32 := none
  column : Option UInt32 := none
deriving DecidableEq, Inhabited

/-- The diagnostic in one line: the place, as far as it is known, and the message. -/
def Diagnostic.text (d : Diagnostic) : String :=
  match d.file, d.line, d.column with
  | some file, some line, some column =>
    file ++ ":" ++ toString line.toNat ++ ":" ++ toString column.toNat ++ " - " ++ d.message
  | some file, _, _ => file ++ " - " ++ d.message
  | none, _, _ => d.message

/-- A type graph. -/
structure TypeGraph where
  types : Array TypeNode := #[]
  symbols : Array Symbol := #[]
  declarations : Dict TypeId := []
  diagnostics : List Diagnostic := []
deriving DecidableEq, Inhabited

namespace TypeGraph

/-- The type at the position. -/
def type? (graph : TypeGraph) (id : TypeId) : Option TypeNode :=
  graph.types[id.index.toNat]?

/-- The symbol at the position. -/
def symbol? (graph : TypeGraph) (id : SymbolId) : Option Symbol :=
  graph.symbols[id.index.toNat]?

end TypeGraph

/-- The constant a literal type stands for.  The label of an enum literal is a number if it reads as
one. -/
def TypeKind.literal? : TypeKind → Option Literal
  | .stringLiteral value => some (.string value)
  | .numberLiteral value => some (.number value)
  | .booleanLiteral value => some (.bool value)
  | .enumLiteral value =>
    match Double.decimal? (Text.trimList value.toList) with
    | some x => some (.number x)
    | none => some (.string value)
  | _ => none

end TypeSchema
