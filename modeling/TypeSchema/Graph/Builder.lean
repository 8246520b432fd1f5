import TypeSchema.Graph.Basic
import TypeSchema.Number.Text
import TypeSchema.Text.Quoting

/-!
# Building graphs

`GraphBuilder` adds types and symbols one at a time and hands out their positions.  Keyword types and
literal types are shared: asking twice for `string` gives the same position twice.  They are found by a
text, which for a string literal is its value in quotes and for a number literal the number after `#`.
Everything that is declared gets the next source position in the current file, so no two declarations
share one.  `ObjectBuilder` collects the parts of one object type before it is entered.
-/

set_option autoImplicit false

namespace TypeSchema

/-- The text by which a keyword or literal type is found.  No other types are shared by their
structure. -/
def TypeKind.key? : TypeKind → Option String
  | .string => some "string"
  | .number => some "number"
  | .boolean => some "boolean"
  | .null => some "null"
  | .undefined => some "undefined"
  | .void => some "void"
  | .any => some "any"
  | .unknown => some "unknown"
  | .never => some "never"
  | .nonPrimitive => some "object"
  | .stringLiteral value => some (Text.quotation value)
  | .numberLiteral value => some ("#" ++ Double.text .plain value)
  | .booleanLiteral value => some (if value then "true" else "false")
  | _ => none

/-- A graph in the making. -/
structure GraphBuilder where
  graph : TypeGraph := {}
  /-- The shared types by their texts, the latest first. -/
  shared : List (String × TypeId) := []
  /-- The file declarations are attributed to. -/
  file : String := "types.ts"
  /-- The source position of the next declaration. -/
  nextPosition : UInt32 := 0

/-- An object type without members that is no literal: arrays and `Date` begin as one. -/
def emptyObject : TypeKind := .object [] false none

namespace Symbol

/-- Adds a piece of plain documentation. -/
def withDoc (symbol : Symbol) (text : String) : Symbol :=
  { symbol with documentation := symbol.documentation ++ [⟨.text, text⟩] }

/-- Adds a tag. -/
def withTag (symbol : Symbol) (name : String) (text : Option String) : Symbol :=
  { symbol with tags := symbol.tags ++ [⟨name, text⟩] }

end Symbol

namespace GraphBuilder

/-- Attributes the declarations from now on to the file. -/
def inFile (b : GraphBuilder) (file : String) : GraphBuilder :=
  { b with file }

/-! ## Entering parts -/

/-- Enters a type. -/
def addType (b : GraphBuilder) (node : TypeNode) : TypeId × GraphBuilder :=
  (⟨UInt32.ofNat b.graph.types.size⟩,
    { b with graph := { b.graph with types := b.graph.types.push node } })

/-- Enters a symbol. -/
def addSymbol (b : GraphBuilder) (symbol : Symbol) : SymbolId × GraphBuilder :=
  (⟨UInt32.ofNat b.graph.symbols.size⟩,
    { b with graph := { b.graph with symbols := b.graph.symbols.push symbol } })

/-- Enters a placeholder for a type that is defined later. -/
def reserve (b : GraphBuilder) : TypeId × GraphBuilder :=
  b.addType { kind := .never }

/-- Defines the type at the position. -/
def define (b : GraphBuilder) (id : TypeId) (node : TypeNode) : GraphBuilder :=
  { b with graph := { b.graph with types := b.graph.types.setIfInBounds id.index.toNat node } }

/-- Declares the type under the name. -/
def declare (b : GraphBuilder) (name : String) (id : TypeId) : GraphBuilder :=
  { b with graph := { b.graph with declarations := Dict.insert b.graph.declarations name id } }

/-- Adds a diagnostic. -/
def diagnostic (b : GraphBuilder) (d : Diagnostic) : GraphBuilder :=
  { b with graph := { b.graph with diagnostics := b.graph.diagnostics ++ [d] } }

/-- Enters a symbol declared in the current file at the next source position. -/
def declaredSymbol (b : GraphBuilder) (name : String) (kind : DeclarationKind) :
    SymbolId × GraphBuilder :=
  { b with nextPosition := b.nextPosition + 100 }.addSymbol
    { name, declaration := some ⟨b.file, b.nextPosition, kind, false⟩ }

/-- Changes the symbol at the position. -/
def modifySymbol (b : GraphBuilder) (id : SymbolId) (change : Symbol → Symbol) : GraphBuilder :=
  { b with graph := { b.graph with symbols := b.graph.symbols.modify id.index.toNat change } }

/-! ## Shared types -/

/-- The position of a shared type, which is entered when it is asked for the first time. -/
def share (b : GraphBuilder) (key : String) (enter : GraphBuilder → TypeId × GraphBuilder) :
    TypeId × GraphBuilder :=
  match b.shared.lookup key with
  | some id => (id, b)
  | none =>
    let (id, entered) := enter b
    (id, { entered with shared := (key, id) :: entered.shared })

/-- A keyword or literal type. -/
def shareKind (b : GraphBuilder) (kind : TypeKind) : TypeId × GraphBuilder :=
  match kind.key? with
  | some key => b.share key fun b => b.addType { kind }
  | none => b.addType { kind }

/-- The built-in class `Date`. -/
def date (b : GraphBuilder) : TypeId × GraphBuilder :=
  b.share "Date" fun b =>
    let (symbol, b) := b.addSymbol { name := "Date", isBuiltin := true }
    b.addType { kind := emptyObject, symbol := some symbol }

/-- The number type branded as `integer`. -/
def integer (b : GraphBuilder) : TypeId × GraphBuilder :=
  b.share "integer" fun b =>
    let (symbol, b) := b.declaredSymbol "integer" .typeAlias
    b.addType { kind := .number, symbol := some symbol }

/-! ## Composite types -/

/-- A union. -/
def union (b : GraphBuilder) (members : List TypeId) : TypeId × GraphBuilder :=
  b.addType { kind := .union members }

/-- An intersection. -/
def intersection (b : GraphBuilder) (members : List TypeId) : TypeId × GraphBuilder :=
  b.addType { kind := .intersection members }

/-- An array. -/
def array (b : GraphBuilder) (element : TypeId) : TypeId × GraphBuilder :=
  b.addType { kind := emptyObject, numberIndex := some element }

/-- A tuple. -/
def tuple (b : GraphBuilder) (elements : List TypeId) (minLength : Nat) (hasRest : Bool) :
    TypeId × GraphBuilder :=
  b.addType { kind := .tuple elements minLength hasRest }

/-- An enum, declared under its name. -/
def enumeration (b : GraphBuilder) (name : String) (members : List EnumMember) :
    TypeId × GraphBuilder :=
  let (symbol, b) := b.declaredSymbol name .enum
  let (id, b) := b.addType { kind := .enum members, symbol := some symbol }
  (id, b.declare name id)

/-- A type alias with arguments: a copy of the target that carries the alias, declared under its
name.  A target that is not there counts as a placeholder. -/
def aliasWith (b : GraphBuilder) (name : String) (target : TypeId) (arguments : List TypeId) :
    TypeId × GraphBuilder :=
  let (symbol, b) := b.declaredSymbol name .typeAlias
  let node := (b.graph.type? target).getD { kind := .never }
  let (id, b) := b.addType { node with aliasSymbol := some symbol, aliasArguments := arguments }
  (id, b.declare name id)

end GraphBuilder

/-! ## Object types -/

/-- A property to be added to an object type. -/
structure PropertySpec where
  name : String
  type : TypeId
  isOptional : Bool := false
  isMethod : Bool := false
  isPrivate : Bool := false
  docs : List String := []
  tags : List (String × Option String) := []
  initializer : Option String := none
  /-- The symbol its type annotation names; by default the one the type is known by. -/
  references : Option SymbolId := none

/-- An object type in the making, inside a graph in the making. -/
structure ObjectBuilder where
  builder : GraphBuilder
  symbol : SymbolId
  isAnonymous : Bool
  /-- The name it is declared under once it is entered. -/
  declaredAs : Option String
  aliasSymbol : Option SymbolId := none
  properties : List Property := []
  index : Option TypeId := none
  baseTypes : List TypeId := []

namespace GraphBuilder

/-- Begins an interface. -/
def interface (b : GraphBuilder) (name : String) : ObjectBuilder :=
  let (symbol, builder) := b.declaredSymbol name .interface
  { builder, symbol, isAnonymous := false, declaredAs := some name }

/-- Begins a class. -/
def classType (b : GraphBuilder) (name : String) : ObjectBuilder :=
  let (symbol, builder) := b.declaredSymbol name .classType
  { builder, symbol, isAnonymous := false, declaredAs := some name }

/-- Begins a type literal. -/
def typeLiteral (b : GraphBuilder) : ObjectBuilder :=
  let (symbol, builder) := b.declaredSymbol typeLiteralName .typeLiteral
  { builder, symbol, isAnonymous := true, declaredAs := none }

end GraphBuilder

namespace ObjectBuilder

/-- Changes the graph in the making. -/
def onBuilder (o : ObjectBuilder) (change : GraphBuilder → GraphBuilder) : ObjectBuilder :=
  { o with builder := change o.builder }

/-- Gives the type an alias, under which it is declared. -/
def named (o : ObjectBuilder) (name : String) : ObjectBuilder :=
  let (symbol, builder) := o.builder.declaredSymbol name .typeAlias
  { o with builder, aliasSymbol := some symbol, declaredAs := some name }

/-- The symbol that carries the documentation: the alias if there is one. -/
def docSymbol (o : ObjectBuilder) : SymbolId :=
  o.aliasSymbol.getD o.symbol

/-- Adds documentation. -/
def doc (o : ObjectBuilder) (text : String) : ObjectBuilder :=
  o.onBuilder fun b => b.modifySymbol o.docSymbol fun s => s.withDoc text

/-- Adds a tag. -/
def tag (o : ObjectBuilder) (name : String) (text : Option String) : ObjectBuilder :=
  o.onBuilder fun b => b.modifySymbol o.docSymbol fun s => s.withTag name text

/-- Changes how the type's own symbol is declared. -/
def onDeclaration (o : ObjectBuilder) (change : Declaration → Declaration) : ObjectBuilder :=
  o.onBuilder fun b => b.modifySymbol o.symbol fun s =>
    { s with declaration := s.declaration.map change }

/-- Declares the type abstract. -/
def isAbstract (o : ObjectBuilder) : ObjectBuilder :=
  o.onDeclaration fun d => { d with isAbstract := true }

/-- Adds a base type. -/
def extending (o : ObjectBuilder) (base : TypeId) : ObjectBuilder :=
  { o with baseTypes := o.baseTypes ++ [base] }

/-- Gives the type a string index; a type literal becomes a mapped type by it. -/
def indexedBy (o : ObjectBuilder) (value : TypeId) : ObjectBuilder :=
  let indexed := { o with index := some value }
  if o.isAnonymous then indexed.onDeclaration fun d => { d with kind := .mappedType } else indexed

/-- The symbol a type is known by where it is used: its alias, or its own unless it is a literal. -/
def knownBy? (graph : TypeGraph) (id : TypeId) : Option SymbolId :=
  (graph.type? id).bind fun node =>
    node.aliasSymbol.or (if node.isAnonymousObject then none else node.symbol)

/-- Adds a property. -/
def property (o : ObjectBuilder) (p : PropertySpec) : ObjectBuilder :=
  let documented := p.docs.foldl Symbol.withDoc { name := p.name }
  let tagged := p.tags.foldl (fun (s : Symbol) (name, text) => s.withTag name text) documented
  let (symbol, builder) := o.builder.addSymbol tagged
  let entered : Property :=
    { symbol
      type := p.type
      isOptional := p.isOptional
      isMethod := p.isMethod
      isPrivate := p.isPrivate
      referenced := p.references.or (knownBy? builder.graph p.type)
      initializer := p.initializer }
  { o with builder, properties := o.properties ++ [entered] }

/-- Defines the reserved type at the position as this object type. -/
def buildInto (o : ObjectBuilder) (id : TypeId) : TypeId × GraphBuilder :=
  let node : TypeNode :=
    { kind := .object o.properties o.isAnonymous o.index
      symbol := some o.symbol
      aliasSymbol := o.aliasSymbol
      baseTypes := o.baseTypes }
  let defined := o.builder.define id node
  (id, match o.declaredAs with
    | some name => defined.declare name id
    | none => defined)

/-- Enters this object type. -/
def build (o : ObjectBuilder) : TypeId × GraphBuilder :=
  let (id, builder) := o.builder.reserve
  { o with builder }.buildInto id

end ObjectBuilder

end TypeSchema
