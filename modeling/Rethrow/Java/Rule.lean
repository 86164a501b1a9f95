import Rethrow.Grammar.Pattern
import Rethrow.Java.Terminal

/-!
# The grammar of Java source

Every rule has a name, and `Rule.body` gives its pattern. A hidden rule makes no node
of the syntax tree: its children take its place. Operators, casts and lambdas are kept
in sequence instead of being nested by precedence, because nothing below the outermost
expression is looked into; the texts that are accepted are the same.

The top level of a source takes any statement and any method declaration, in any order.
-/

namespace Rethrow.Java

/-- The part that a child plays in its parent. -/
inductive Field where
  | name
  | body
  | parameters
  | dimensions
  | type
  | arguments
  deriving DecidableEq, Repr

/-- The rules of the grammar. -/
inductive Rule where
  | program | topLevel
  -- literals
  | wordLiteral | stringLiteral | embedded
  -- expressions
  | expression | compound | operand | unary | cast | assignment | lambda | inferredParameters
  | primary | thisWord | superWord | reservedName | classLiteral | parenthesized
  | objectCreation | plainCreation | fieldAccess | template | arrayAccess | methodInvocation
  | argumentList | methodReference | typeArguments | wildcard | arrayCreation | dimensionsExpr
  | dimensions | switchExpression | switchBlock | switchGroup | switchRule | switchLabel
  | casePattern | typePattern | recordPattern | recordPatternBody | recordPatternComponent
  | underscore | guard
  -- statements
  | statement | block | expressionStatement | labeled | assertion | doLoop | breakJump
  | continueJump | returnJump | yieldJump | synchronizedBlock | throwStatement | tryStatement
  | catchClause | catchParameter | catchType | finallyClause | tryWithResources | resourceList
  | resource | ifStatement | whileLoop | forLoop | forEachLoop | localVariables
  -- annotations
  | annotation | markerAnnotation | annotationCall | annotationArguments | elementPair
  | elementValue | elementArray
  -- declarations
  | declaration | moduleDeclaration | moduleBody | moduleDirective | requiresDirective
  | requiresModifier | exportsDirective | opensDirective | usesDirective | providesDirective
  | packageDeclaration | importDeclaration | asterisk | enumDeclaration | enumBody
  | enumBodyDeclarations | enumConstant | classDeclaration | modifiers | typeParameters
  | typeParameter | typeBound | superclass | superInterfaces | typeList | permits | classBody
  | classMember | staticInitializer | constructorDeclaration | constructorBody
  | explicitConstructorCall | qualifiedName | scopedName | fieldDeclaration
  | recordDeclaration | annotationTypeDeclaration | annotationTypeBody | annotationTypeElement
  | interfaceDeclaration | extendsInterfaces | interfaceBody | constantDeclaration
  | declarators | declarator | declaratorId | initializer | arrayInitializer
  -- types
  | type | unannotatedType | simpleType | primitiveType | annotatedType | scopedType
  | genericType | arrayType
  -- methods
  | methodHeader | formalParameters | formalParameter | receiverParameter | spreadParameter
  | throwsClause | methodDeclaration | compactConstructor
  deriving DecidableEq, Repr, Inhabited

/-- What a leaf of a pattern stands for. -/
inductive Symbol where
  | token (terminal : Terminal)
  | rule (rule : Rule)
  deriving DecidableEq, Repr

/-- A leaf of a pattern. -/
structure Leaf where
  symbol : Symbol
  field : Option Field := none
  deriving DecidableEq, Repr

/-- The pattern of a rule. -/
abbrev Body := Grammar.Pattern Leaf

namespace Rule

open Grammar.Pattern

/-- Rules whose children take their place in the tree. -/
def isHidden : Rule → Bool
  | topLevel | expression | operand | primary | plainCreation | statement | annotation
  | elementValue | declaration | moduleDirective | classMember | qualifiedName | declarators
  | declaratorId | initializer | type | unannotatedType | simpleType | methodHeader => true
  | _ => false

/-- A keyword. -/
def word (spelling : String) : Body :=
  leaf { symbol := .token (.keyword spelling.toList) }

/-- An operator or a piece of punctuation. -/
def mark (spelling : String) : Body :=
  leaf { symbol := .token (.sign spelling.toList) }

/-- A terminal that is neither a keyword nor a sign. -/
def token (terminal : Terminal) : Body :=
  leaf { symbol := .token terminal }

/-- Another rule. -/
def ref (rule : Rule) : Body :=
  leaf { symbol := .rule rule }

/-- Another rule, in the part `field`. -/
def part (field : Field) (rule : Rule) : Body :=
  leaf { symbol := .rule rule, field }

/-- A name. -/
def identifier : Body :=
  token .identifier

/-- A name in the part `name`. -/
def identifierPart : Body :=
  leaf { symbol := .token .identifier, field := Field.name }

/-- A name, where some keywords may also be names. -/
def anyName : Body :=
  alt identifier (ref reservedName)

/-- A name in the part `name`, where some keywords may also be names. -/
def anyNamePart : Body :=
  alt identifierPart (part .name reservedName)

/-- One of several keywords. -/
def words (spellings : List String) : Body :=
  any (spellings.map word)

/-- One of several signs. -/
def marks (spellings : List String) : Body :=
  any (spellings.map mark)

/-- One or more, with `between` between neighbours. -/
def separated (p between : Body) : Body :=
  seq p (many (seq between p))

/-- One or more, with commas. -/
def commas1 (p : Body) : Body :=
  separated p (mark ",")

/-- Zero or more, with commas. -/
def commas (p : Body) : Body :=
  opt (commas1 p)

/-- What braces enclose. -/
def braces (p : Body) : Body :=
  all [mark "\x7b", p, mark "\x7d"]

/-- What parentheses enclose. -/
def parens (p : Body) : Body :=
  all [mark "(", p, mark ")"]

/-- The operators between two operands. -/
def binaryOperators : List String :=
  [">", "<", ">=", "<=", "==", "!=", "&&", "||", "+", "-", "*", "/", "&", "|", "^", "%", "<<",
    ">>", ">>>"]

/-- The operators of an assignment. -/
def assignmentOperators : List String :=
  ["=", "+=", "-=", "*=", "/=", "&=", "|=", "^=", "%=", "<<=", ">>=", ">>>="]

/-- The keywords of a declaration's modifiers. -/
def modifierWords : List String :=
  ["public", "protected", "private", "abstract", "static", "final", "strictfp", "default",
    "synchronized", "native", "transient", "volatile", "sealed"]

/-- The pattern of a rule. -/
def body : Rule → Body
  | program => many (ref topLevel)
  | topLevel => alt (ref statement) (ref methodDeclaration)
  | wordLiteral => words ["true", "false", "null"]
  | stringLiteral =>
    alt
      (all [mark "\"", many (any [token .stringPart, token .stringEscape, ref embedded]),
        token .stringClose])
      (all [mark "\"\"\"", many (any [token .blockPart, token .blockEscape, ref embedded]),
        token .blockClose])
  | embedded => all [token .embedOpen, ref expression, mark "\x7d"]
  | expression => alt (ref operand) (ref compound)
  | compound =>
    seq (ref operand) (some (any [
      seq (marks binaryOperators) (ref operand),
      marks ["++", "--"],
      all [word "instanceof", opt (word "final"),
        alt (seq (ref type) (opt anyName)) (ref recordPattern)],
      all [mark "?", ref expression, mark ":", ref operand]]))
  | operand =>
    any [ref unary, ref cast, ref assignment, ref lambda, ref primary, ref switchExpression]
  | unary => seq (marks ["+", "-", "!", "~", "++", "--"]) (ref operand)
  | cast =>
    alt (seq (parens (ref type)) (ref operand))
      (seq (parens (seq (ref type) (some (seq (mark "&") (ref type)))))
        (alt (ref primary) (ref lambda)))
  | assignment =>
    all [any [anyName, ref fieldAccess, ref arrayAccess], marks assignmentOperators, ref operand]
  | lambda =>
    all [any [anyName, ref formalParameters, ref inferredParameters], mark "->",
      alt (ref operand) (ref block)]
  | inferredParameters => parens (commas1 anyName)
  | primary =>
    any [token .number, token .character, ref wordLiteral, ref stringLiteral, ref classLiteral,
      ref thisWord, anyName, ref parenthesized, ref objectCreation, ref fieldAccess,
      ref arrayAccess, ref methodInvocation, ref methodReference, ref arrayCreation, ref template]
  | thisWord => word "this"
  | superWord => word "super"
  | reservedName => words ["open", "module", "record", "with", "yield", "sealed"]
  | classLiteral => all [ref unannotatedType, mark ".", word "class"]
  | parenthesized => parens (ref expression)
  | objectCreation => alt (ref plainCreation) (all [ref primary, mark ".", ref plainCreation])
  | plainCreation =>
    all [word "new", many (ref annotation),
      opt (seq (ref typeArguments) (many (ref annotation))), part .type simpleType,
      part .arguments argumentList, opt (ref classBody)]
  | fieldAccess =>
    all [alt (ref primary) (ref superWord), opt (seq (mark ".") (ref superWord)), mark ".",
      alt anyName (ref thisWord)]
  | template => all [ref primary, mark ".", ref stringLiteral]
  | arrayAccess => all [ref primary, mark "[", ref expression, mark "]"]
  | methodInvocation =>
    seq
      (alt anyName
        (all [alt (ref primary) (ref superWord), mark ".", opt (seq (ref superWord) (mark ".")),
          opt (ref typeArguments), anyName]))
      (ref argumentList)
  | argumentList => parens (commas (ref expression))
  | methodReference =>
    all [any [ref type, ref primary, ref superWord], mark "::", opt (ref typeArguments),
      alt (word "new") identifier]
  | typeArguments =>
    all [mark "<", commas (alt (ref type) (ref wildcard)), token .angleClose]
  | wildcard =>
    all [many (ref annotation), mark "?",
      opt (seq (alt (word "extends") (ref superWord)) (ref type))]
  | arrayCreation =>
    all [word "new", many (ref annotation), ref simpleType,
      alt (seq (some (ref dimensionsExpr)) (opt (ref dimensions)))
        (seq (ref dimensions) (ref arrayInitializer))]
  | dimensionsExpr => all [many (ref annotation), mark "[", ref expression, mark "]"]
  | dimensions => some (all [many (ref annotation), mark "[", mark "]"])
  | switchExpression => all [word "switch", ref parenthesized, ref switchBlock]
  | switchBlock => braces (alt (many (ref switchGroup)) (many (ref switchRule)))
  | switchGroup => seq (some (seq (ref switchLabel) (mark ":"))) (many (ref statement))
  | switchRule =>
    all [ref switchLabel, mark "->",
      any [ref expressionStatement, ref throwStatement, ref block]]
  | switchLabel =>
    alt
      (all [word "case", alt (ref casePattern) (commas1 (ref expression)), opt (ref guard)])
      (word "default")
  | casePattern => alt (ref typePattern) (ref recordPattern)
  | typePattern => seq (ref unannotatedType) anyName
  | recordPattern => seq (alt anyName (ref genericType)) (ref recordPatternBody)
  | recordPatternBody => parens (commas (alt (ref recordPatternComponent) (ref recordPattern)))
  | recordPatternComponent => alt (ref underscore) (seq (ref unannotatedType) anyName)
  | underscore => word "_"
  | guard => seq (word "when") (ref expression)
  | statement =>
    any [ref declaration, ref expressionStatement, ref labeled, ref ifStatement, ref whileLoop,
      ref forLoop, ref forEachLoop, ref block, mark ";", ref assertion, ref doLoop, ref breakJump,
      ref continueJump, ref returnJump, ref yieldJump, ref switchExpression,
      ref synchronizedBlock, ref localVariables, ref throwStatement, ref tryStatement,
      ref tryWithResources]
  | block => braces (many (ref statement))
  | expressionStatement => seq (ref expression) (mark ";")
  | labeled => all [identifier, mark ":", ref statement]
  | assertion =>
    all [word "assert", ref expression, opt (seq (mark ":") (ref expression)), mark ";"]
  | doLoop => all [word "do", ref statement, word "while", ref parenthesized, mark ";"]
  | breakJump => all [word "break", opt identifier, mark ";"]
  | continueJump => all [word "continue", opt identifier, mark ";"]
  | returnJump => all [word "return", opt (ref expression), mark ";"]
  | yieldJump => all [word "yield", ref expression, mark ";"]
  | synchronizedBlock => all [word "synchronized", ref parenthesized, ref block]
  | throwStatement => all [word "throw", ref expression, mark ";"]
  | tryStatement =>
    all [word "try", part .body block,
      alt (some (ref catchClause)) (seq (many (ref catchClause)) (ref finallyClause))]
  | catchClause =>
    all [word "catch", parens (ref catchParameter), part .body block]
  | catchParameter => all [opt (ref modifiers), ref catchType, ref declaratorId]
  | catchType => separated (ref unannotatedType) (mark "|")
  | finallyClause => seq (word "finally") (ref block)
  | tryWithResources =>
    all [word "try", ref resourceList, part .body block, many (ref catchClause),
      opt (ref finallyClause)]
  | resourceList => parens (seq (separated (ref resource) (mark ";")) (opt (mark ";")))
  | resource =>
    any [all [opt (ref modifiers), ref unannotatedType, ref declaratorId, mark "=",
      ref expression], identifier, ref fieldAccess]
  | ifStatement =>
    all [word "if", ref parenthesized, ref statement, opt (seq (word "else") (ref statement))]
  | whileLoop => all [word "while", ref parenthesized, ref statement]
  | forLoop =>
    all [word "for", mark "(", alt (ref localVariables) (seq (commas (ref expression)) (mark ";")),
      opt (ref expression), mark ";", commas (ref expression), mark ")", ref statement]
  | forEachLoop =>
    all [word "for", mark "(", opt (ref modifiers), ref unannotatedType, ref declaratorId,
      mark ":", ref expression, mark ")", ref statement]
  | localVariables =>
    all [opt (ref modifiers), ref unannotatedType, ref declarators, mark ";"]
  | annotation => alt (ref markerAnnotation) (ref annotationCall)
  | markerAnnotation => seq (mark "@") (ref qualifiedName)
  | annotationCall => all [mark "@", ref qualifiedName, ref annotationArguments]
  | annotationArguments => parens (alt (ref elementValue) (commas (ref elementPair)))
  | elementPair => all [identifier, mark "=", ref elementValue]
  | elementValue => any [ref expression, ref elementArray, ref annotation]
  | elementArray => braces (seq (commas (ref elementValue)) (opt (mark ",")))
  | declaration =>
    any [ref moduleDeclaration, ref packageDeclaration, ref importDeclaration,
      ref classDeclaration, ref recordDeclaration, ref interfaceDeclaration,
      ref annotationTypeDeclaration, ref enumDeclaration]
  | moduleDeclaration =>
    all [many (ref annotation), opt (word "open"), word "module", ref qualifiedName,
      part .body moduleBody]
  | moduleBody => braces (many (ref moduleDirective))
  | moduleDirective =>
    any [ref requiresDirective, ref exportsDirective, ref opensDirective, ref usesDirective,
      ref providesDirective]
  | requiresDirective =>
    all [word "requires", many (ref requiresModifier), ref qualifiedName, mark ";"]
  | requiresModifier => words ["transitive", "static"]
  | exportsDirective =>
    all [word "exports", ref qualifiedName,
      opt (seq (word "to") (commas1 (ref qualifiedName))), mark ";"]
  | opensDirective =>
    all [word "opens", ref qualifiedName,
      opt (seq (word "to") (commas1 (ref qualifiedName))), mark ";"]
  | usesDirective => all [word "uses", ref qualifiedName, mark ";"]
  | providesDirective =>
    all [word "provides", ref qualifiedName, word "with", commas1 (ref qualifiedName), mark ";"]
  | packageDeclaration =>
    all [many (ref annotation), word "package", ref qualifiedName, mark ";"]
  | importDeclaration =>
    all [word "import", opt (word "static"), ref qualifiedName,
      opt (seq (mark ".") (ref asterisk)), mark ";"]
  | asterisk => mark "*"
  | enumDeclaration =>
    all [opt (ref modifiers), word "enum", identifierPart, opt (ref superInterfaces),
      part .body enumBody]
  | enumBody =>
    braces (all [commas (ref enumConstant), opt (mark ","), opt (ref enumBodyDeclarations)])
  | enumBodyDeclarations => seq (mark ";") (many (ref classMember))
  | enumConstant =>
    all [opt (ref modifiers), identifierPart, opt (ref argumentList), opt (ref classBody)]
  | classDeclaration =>
    all [opt (ref modifiers), word "class", identifierPart, opt (ref typeParameters),
      opt (ref superclass), opt (ref superInterfaces), opt (ref permits), part .body classBody]
  | modifiers => some (any [ref annotation, words modifierWords, mark "non-sealed"])
  | typeParameters => all [mark "<", commas1 (ref typeParameter), token .angleClose]
  | typeParameter => all [many (ref annotation), identifier, opt (ref typeBound)]
  | typeBound => all [word "extends", ref type, many (seq (mark "&") (ref type))]
  | superclass => seq (word "extends") (ref type)
  | superInterfaces => seq (word "implements") (ref typeList)
  | typeList => commas1 (ref type)
  | permits => seq (word "permits") (ref typeList)
  | classBody => braces (many (ref classMember))
  | classMember =>
    any [ref fieldDeclaration, ref recordDeclaration, ref methodDeclaration,
      ref compactConstructor, ref classDeclaration, ref interfaceDeclaration,
      ref annotationTypeDeclaration, ref enumDeclaration, ref block, ref staticInitializer,
      ref constructorDeclaration, mark ";"]
  | staticInitializer => seq (word "static") (ref block)
  | constructorDeclaration =>
    all [opt (ref modifiers), opt (ref typeParameters), identifierPart,
      part .parameters formalParameters, opt (ref throwsClause), part .body constructorBody]
  | constructorBody => braces (seq (opt (ref explicitConstructorCall)) (many (ref statement)))
  | explicitConstructorCall =>
    all [alt (seq (opt (ref typeArguments)) (alt (ref thisWord) (ref superWord)))
        (all [ref primary, mark ".", opt (ref typeArguments), ref superWord]),
      ref argumentList, mark ";"]
  | qualifiedName => alt anyName (ref scopedName)
  | scopedName => all [ref qualifiedName, mark ".", identifier]
  | fieldDeclaration =>
    all [opt (ref modifiers), ref unannotatedType, ref declarators, mark ";"]
  | recordDeclaration =>
    all [opt (ref modifiers), word "record", identifierPart, opt (ref typeParameters),
      part .parameters formalParameters, opt (ref superInterfaces), part .body classBody]
  | annotationTypeDeclaration =>
    all [opt (ref modifiers), mark "@interface", identifierPart, part .body annotationTypeBody]
  | annotationTypeBody =>
    braces (many (any [ref annotationTypeElement, ref constantDeclaration, ref classDeclaration,
      ref interfaceDeclaration, ref enumDeclaration, ref annotationTypeDeclaration, mark ";"]))
  | annotationTypeElement =>
    all [opt (ref modifiers), ref unannotatedType, anyNamePart, mark "(", mark ")",
      opt (part .dimensions dimensions), opt (seq (word "default") (ref elementValue)), mark ";"]
  | interfaceDeclaration =>
    all [opt (ref modifiers), word "interface", identifierPart, opt (ref typeParameters),
      opt (ref extendsInterfaces), opt (ref permits), part .body interfaceBody]
  | extendsInterfaces => seq (word "extends") (ref typeList)
  | interfaceBody =>
    braces (many (any [ref constantDeclaration, ref enumDeclaration, ref methodDeclaration,
      ref classDeclaration, ref interfaceDeclaration, ref recordDeclaration,
      ref annotationTypeDeclaration, mark ";"]))
  | constantDeclaration =>
    all [opt (ref modifiers), ref unannotatedType, ref declarators, mark ";"]
  | declarators => commas1 (ref declarator)
  | declarator => seq (ref declaratorId) (opt (seq (mark "=") (ref initializer)))
  | declaratorId =>
    seq (alt anyNamePart (part .name underscore)) (opt (part .dimensions dimensions))
  | initializer => alt (ref expression) (ref arrayInitializer)
  | arrayInitializer => braces (seq (commas (ref initializer)) (opt (mark ",")))
  | type => alt (ref unannotatedType) (ref annotatedType)
  | unannotatedType => alt (ref simpleType) (ref arrayType)
  | simpleType => any [ref primitiveType, identifier, ref scopedType, ref genericType]
  | primitiveType =>
    words ["void", "byte", "short", "int", "long", "char", "float", "double", "boolean"]
  | annotatedType => seq (some (ref annotation)) (ref unannotatedType)
  | scopedType =>
    all [any [identifier, ref scopedType, ref genericType], mark ".", many (ref annotation),
      identifier]
  | genericType => seq (alt identifier (ref scopedType)) (ref typeArguments)
  | arrayType => seq (ref unannotatedType) (ref dimensions)
  | methodHeader =>
    all [opt (seq (ref typeParameters) (many (ref annotation))), part .type unannotatedType,
      anyNamePart, part .parameters formalParameters, opt (part .dimensions dimensions),
      opt (ref throwsClause)]
  | formalParameters =>
    parens (alt (ref receiverParameter)
      (seq (opt (seq (ref receiverParameter) (mark ",")))
        (commas (alt (ref formalParameter) (ref spreadParameter)))))
  | formalParameter => all [opt (ref modifiers), ref unannotatedType, ref declaratorId]
  | receiverParameter =>
    all [many (ref annotation), ref unannotatedType, many (seq identifier (mark ".")),
      ref thisWord]
  | spreadParameter =>
    all [opt (ref modifiers), ref unannotatedType, mark "...", ref declarator]
  | throwsClause => seq (word "throws") (commas1 (ref type))
  | methodDeclaration =>
    all [opt (ref modifiers), ref methodHeader, alt (part .body block) (mark ";")]
  | compactConstructor => all [opt (ref modifiers), identifierPart, part .body block]

end Rule

end Rethrow.Java
