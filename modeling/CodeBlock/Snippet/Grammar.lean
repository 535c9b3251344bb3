import CodeBlock.Snippet.Grammar.Modules
import CodeBlock.Snippet.Grammar.Statements
import CodeBlock.Snippet.Grammar.Expressions
import CodeBlock.Snippet.Grammar.Functions
import CodeBlock.Snippet.Grammar.Types

set_option autoImplicit false

/-! # The grammar of snippets

The rules of all categories, and the order of precedence. The order is a number of **ladders**: of two
steps of one ladder the upper one binds more firmly. A step is a level or a category, which then stands
for its rules whatever their levels are. -/

namespace CodeBlock.Snippet.Grammar

open Category

def rules : List (Category × Rule) :=
  moduleRules ++ statementRules ++ expressionRules ++ functionRules ++ typeRules

/-- A step of a ladder of precedence. -/
inductive Step where
  | level (l : Level)
  | category (c : Category)
  deriving DecidableEq, Repr

instance : Coe Level Step := ⟨.level⟩

instance : Coe Category Step := ⟨.category⟩

/-- The ladders of statements and expressions. -/
def generalLadders : List (List Step) :=
  [[Level.member, Level.templateCall, Level.call, updateExpression, Level.unaryVoid,
      Level.binaryExp, Level.binaryTimes, Level.binaryPlus, Level.binaryShift, Level.binaryCompare,
      Level.binaryRelation, Level.binaryEquality, Level.bitwiseAnd, Level.bitwiseXor,
      Level.bitwiseOr, Level.logicalAnd, Level.logicalOr, Level.ternary, expressionSequence,
      arrowFunction],
    [Level.assign, primaryExpression],
    [Level.member, Level.templateCall, Level.new, Level.call, expression],
    [Level.declare, Level.literal],
    [primaryExpression, block, Level.object],
    [metaProperty, importWord],
    [importStatement, importWord],
    [exportStatement, primaryExpression],
    [letDeclaration, primaryExpression]]

/-- The ladders of types, and of what types and expressions share. -/
def typeLadders : List (List Step) :=
  [[Level.call, Level.instantiation, Level.unary, Level.binary, awaitExpression, arrowFunction],
    [Level.extends, Level.instantiation],
    [intersectionType, unionType, conditionalType, functionType, Level.binary, typePredicate,
      readonlyType],
    [mappedTypeClause, primaryExpression],
    [accessibilityModifier, primaryExpression],
    [Level.unaryVoid, expression],
    [extendsClause, primaryExpression],
    [Level.unary, Level.assign],
    [Level.declare, expression],
    [predefinedType, unaryExpression],
    [type, maybeType],
    [tupleType, arrayType, pattern, type],
    [readonlyType, pattern],
    [readonlyType, primaryExpression],
    [typeQuery, subscriptExpression, expression],
    [typeQuery, queriedElement],
    [nestedTypeIdentifier, genericType, primaryType, lookupType, indexTypeQuery, type],
    [asExpression, satisfiesExpression, primaryType]]

/-- The ladders of types that ask for the type of a value. -/
def queryLadders : List (List Step) :=
  [[queriedMember, memberExpression],
    [memberExpression, importedTypeMember],
    [queriedMember, primaryExpression],
    [queriedElement, subscriptExpression],
    [queriedElement, primaryExpression],
    [queriedCall, primaryExpression],
    [queriedInstance, primaryExpression],
    [typeQuery, primaryExpression],
    [overrideModifier, primaryExpression],
    [decoratorCallExpression, decorator],
    [literalType, pattern],
    [predefinedType, pattern],
    [callExpression, queriedCall],
    [callExpression, importedTypeCall],
    [newExpression, primaryExpression],
    [metaProperty, primaryExpression],
    [constructSignature, memberName]]

def ladders : List (List Step) := generalLadders ++ typeLadders ++ queryLadders

def Step.matches (rank : Rank) (categories : List Category) : Step → Bool
  | .level l => rank = .level l
  | .category c => categories.contains c

/-- How two rules stand on a ladder: the one that is met first binds more firmly. -/
def onLadder (a b : Step → Bool) : List Step → Ordering
  | [] => .eq
  | step :: rest =>
      if a step then if rest.any (fun later => b later && !a later) then .gt else .eq
      else if b step then if rest.any a then .lt else .eq
      else onLadder a b rest

/-- Which of two rules binds more firmly; each is given by its rank and the categories it is for.
    Numbers decide between themselves, except that nought says nothing; otherwise the first ladder
    that has both rules does. -/
def comparePrecedence (rank : Rank) (categories : List Category) (rank' : Rank)
    (categories' : List Category) : Ordering :=
  match rank, rank' with
  | .number m, .number n =>
      if m = 0 ∧ n = 0 then onLadders else compare m n
  | _, _ => onLadders
where
  onLadders : Ordering :=
    (ladders.map (onLadder (Step.matches rank categories) (Step.matches rank' categories'))).find?
      (· != .eq) |>.getD .eq

end CodeBlock.Snippet.Grammar
