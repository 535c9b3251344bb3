import CodeBlock.Snippet.Grammar.Rule

set_option autoImplicit false

/-! # Functions and classes

Functions, their parameters, classes and their members. -/

namespace CodeBlock.Snippet.Grammar

open Rule Category

/-- The rules of functions and classes. -/
def functionRules : List (Category × Rule) :=
  [
    (classExpression,
      unsided .literal (all [
        many decorator, "class", opt name, opt typeParameters, opt classHeritage, classBody])),
    (classDeclaration,
      leftRanked .declare (all [
        many decorator, "class", name, opt typeParameters, opt classHeritage, classBody,
        opt ending])),
    (classHeritage, any [all [extendsClause, opt implementsClause], implementsClause]),
    (functionExpression,
      unsided .literal (all [opt "async", "function", opt name, signature, block])),
    (functionDeclaration,
      rightRanked .declare (all [opt "async", "function", name, signature, block, opt ending])),
    (generatorExpression,
      unsided .literal (all [opt "async", "function", "*", opt name, signature, block])),
    (generatorDeclaration,
      rightRanked .declare
        (all [opt "async", "function", "*", name, signature, block, opt ending])),
    (arrowFunction,
      all [opt "async", any [softWords, name, signature], "=>", any [expression, block]]),
    (signature,
      all [
        opt typeParameters, formalParameters,
        opt (any [typeMark, assertionMark, predicateMark])]),
    (formalParameter, any [requiredParameter, optionalParameter]),
    (decorator,
      all [
        "@",
        any [
          name, decoratorMemberExpression, decoratorCallExpression,
          decoratorParenthesizedExpression]]),
    (decoratorMemberExpression,
      unsided .member (all [any [name, decoratorMemberExpression], ".", name])),
    (decoratorCallExpression,
      unsided .call (all [any [name, decoratorMemberExpression], opt typeArguments, arguments])),
    (classBody,
      all [
        "\x7b",
        many (any [
          all [many decorator, methodDefinition, opt statementEnd],
          all [methodSignature, any [plain .signatureEnding, ","]], classStaticBlock,
          all [
            any [
              abstractMethodSignature, indexSignature, methodSignature, publicFieldDefinition],
            any [statementEnd, ","]],
          ";"]),
        "\x7d"]),
    (formalParameters, all ["(", opt (all [commas formalParameter, opt ","]), ")"]),
    (classStaticBlock, all ["static", block]),
    (methodDefinition,
      leftSided (all [
        opt accessibilityModifier, opt "static", opt overrideModifier, opt "readonly",
        opt "async", opt (any ["get", "set", "*"]), memberName, opt "?", signature, block])),
    (publicFieldDefinition,
      all [
        many decorator,
        opt (any [
          all ["declare", opt accessibilityModifier], all [accessibilityModifier, opt "declare"]]),
        any [
          all [opt "static", opt overrideModifier, opt "readonly"],
          all [opt "abstract", opt "readonly"], all [opt "readonly", opt "abstract"],
          opt "accessor"],
        memberName, opt (any ["?", "!"]), opt typeMark, opt initializer]),
    (methodSignature,
      all [
        opt accessibilityModifier, opt "static", opt overrideModifier, opt "readonly",
        opt "async", opt (any ["get", "set", "*"]), memberName, opt "?", signature]),
    (abstractMethodSignature,
      all [
        opt accessibilityModifier, "abstract", opt overrideModifier,
        opt (any ["get", "set", "*"]), memberName, opt "?", signature]),
    (functionSignature,
      all [opt "async", "function", name, signature, any [statementEnd, plain .signatureEnding]]),
    (decoratorParenthesizedExpression,
      all ["(", any [name, decoratorMemberExpression, decoratorCallExpression], ")"]),
    (extendsClause, all ["extends", commas extendedClass]),
    (extendedClass, unsided .extends (all [expression, opt typeArguments])),
    (implementsClause, all ["implements", commas type]),
    (abstractClassDeclaration,
      unsided .declare (all [
        many decorator, "abstract", "class", name, opt typeParameters, opt classHeritage,
        classBody])),
    (accessibilityModifier, any ["public", "private", "protected"]),
    (overrideModifier, "override"),
    (requiredParameter, all [parameterName, opt typeMark, opt initializer]),
    (optionalParameter, all [parameterName, "?", opt typeMark, opt initializer]),
    (parameterName,
      all [
        many decorator, opt accessibilityModifier, opt overrideModifier, opt "readonly",
        any [pattern, "this"]])]

end CodeBlock.Snippet.Grammar
