set_option autoImplicit false

/-! # Categories

What the parts of a snippet are: statements and their parts, expressions, functions and classes, and
types. Their order counts where two readings of a text are equally good. -/

namespace CodeBlock.Snippet

/-- What a part of a snippet is. -/
inductive Category where
  | snippet | exportStatement | exportedNamespace | exportedNames | exportedName | moduleMember
  | declaration | importWord | importStatement | importClause | fromClause | importedNamespace
  | importedNames | importedName | importAttributes | statement | expressionStatement
  | varDeclaration | letDeclaration | variableBinding | block | elseClause | ifStatement
  | switchStatement | forStatement | forInStatement | forHeader | whileStatement | doStatement
  | tryStatement | withStatement | breakStatement | continueStatement | debuggerStatement
  | returnStatement | throwStatement | emptyStatement | labeledStatement | switchBody
  | switchCase | switchDefault | catchClause | finallyClause | parenthesizedExpression
  | expression | primaryExpression | yieldExpression | object | objectPattern
  | assignmentPattern | objectAssignmentPattern | array | arrayPattern | classExpression
  | classDeclaration | classHeritage | functionExpression | functionDeclaration
  | generatorExpression | generatorDeclaration | arrowFunction | signature | formalParameter
  | optionalChain | callExpression | newExpression | awaitExpression | memberExpression
  | subscriptExpression | assignmentExpression | augmentedTarget | augmentedAssignmentExpression
  | initializer | destructuring | spreadElement | ternaryExpression | binaryExpression
  | unaryExpression | updateExpression | expressionSequence | string | templateString
  | templateSubstitution | regex | metaProperty | arguments | decorator
  | decoratorMemberExpression | decoratorCallExpression | classBody | formalParameters
  | classStaticBlock | pattern | restPattern | methodDefinition | pair | pairPattern
  | memberName | computedPropertyName | publicFieldDefinition | importIdentifier
  | nonNullExpression | methodSignature | abstractMethodSignature | functionSignature
  | decoratorParenthesizedExpression | typeAssertion | asExpression | satisfiesExpression
  | instantiationExpression | requiredModule | extendsClause | extendedClass | implementsClause
  | ambientDeclaration | abstractClassDeclaration | moduleDeclaration | namespaceDeclaration
  | moduleRest | nestedIdentifier | importAlias | nestedTypeIdentifier | interfaceDeclaration
  | extendsTypeClause | enumDeclaration | enumBody | enumAssignment | typeAliasDeclaration
  | accessibilityModifier | overrideModifier | requiredParameter | optionalParameter
  | parameterName | omittingMark | addingMark | optingMark
  | typeMark | importedTypeMember | importedTypeCall | assertion | assertionMark
  | type | tupleParameter | optionalTupleParameter | optionalType | restType | tupleMember
  | constructorType | primaryType | templateType | templateLiteralType | inferredType
  | conditionalType | genericType | typePredicate | predicateMark | queriedMember
  | queriedElement | queriedCall | queriedInstance | typeQuery | indexTypeQuery | lookupType
  | mappedTypeClause | literalType | signedNumber | anyType | maybeType | parenthesizedType
  | predefinedType | typeArguments | objectType | callSignature | propertySignature
  | typeParameters | typeParameter | defaultType | typeConstraint | constructSignature
  | indexSignature | arrayType | tupleType | readonlyType | unionType | intersectionType
  | functionType
  deriving DecidableEq, Repr

namespace Category

/-- How many categories there are. -/
def count : Nat := Category.functionType.ctorIdx + 1

/-- Whether a category is a choice among other ones, such as the statements. It leaves no node of
    its own in a tree, and yet is told apart while a text is read. -/
def isFamily : Category → Bool
  | statement | declaration | expression | primaryExpression | pattern | type | primaryType => true
  | _ => false

/-- Whether a category only names a piece of a rule that other rules share. -/
def isPiece : Category → Bool
  | moduleMember | fromClause | forHeader | signature | formalParameter | augmentedTarget
  | initializer | destructuring | memberName | importIdentifier | extendedClass | moduleRest
  | parameterName | tupleMember => true
  | _ => false

/-- Whether the parts of a category are nodes of a tree. -/
def isVisible (c : Category) : Bool := !c.isFamily && !c.isPiece

end Category

end CodeBlock.Snippet
