import CodeBlock.Snippet.Grammar.Rule

set_option autoImplicit false

/-! # Expressions

Expressions, and the patterns that are written like them. -/

namespace CodeBlock.Snippet.Grammar

open Rule Category

/-- The rules of expressions. -/
def expressionRules : List (Category × Rule) :=
  [
    (parenthesizedExpression,
      all ["(", any [all [expression, opt typeMark], expressionSequence], ")"]),
    (expression,
      any [
        asExpression, satisfiesExpression, instantiationExpression, namespaceDeclaration,
        typeAssertion, primaryExpression, assignmentExpression, augmentedAssignmentExpression,
        awaitExpression, unaryExpression, binaryExpression, ternaryExpression, updateExpression,
        newExpression, yieldExpression]),
    (primaryExpression,
      any [
        subscriptExpression, memberExpression, parenthesizedExpression, identifier, softWords,
        "this", "super", number, string, templateString, regex, "true", "false", "null", object,
        array, functionExpression, arrowFunction, generatorExpression, classExpression,
        metaProperty, callExpression, nonNullExpression]),
    (yieldExpression, rightSided (all ["yield", any [all ["*", expression], opt expression]])),
    (object,
      unsided .object (all [
        "\x7b", opt (commas (opt (any [pair, spreadElement, methodDefinition, name, softWords]))),
        "\x7d"])),
    (objectPattern,
      unsided .object (all [
        "\x7b",
        opt
          (commas (opt (any [pairPattern, restPattern, objectAssignmentPattern, name, softWords]))),
        "\x7d"])),
    (assignmentPattern, all [pattern, "=", expression]),
    (objectAssignmentPattern, all [any [softWords, name, destructuring], "=", expression]),
    (array, all ["[", opt (commas (opt (any [expression, spreadElement]))), "]"]),
    (arrayPattern, all ["[", opt (commas (opt (any [pattern, assignmentPattern]))), "]"]),
    (optionalChain, "?."),
    (callExpression,
      any [
        unsided .call (all [any [expression, importWord], opt typeArguments, arguments]),
        unsided .templateCall (all [any [primaryExpression, newExpression], templateString]),
        unsided .member (all [primaryExpression, "?.", opt typeArguments, arguments])]),
    (newExpression,
      rightRanked .new (all ["new", primaryExpression, opt typeArguments, opt arguments])),
    (awaitExpression, unsided .unaryVoid (all ["await", expression])),
    (memberExpression,
      unsided .member (all [
        any [expression, primaryExpression, importWord], any [".", optionalChain],
        any [privateName, name]])),
    (subscriptExpression,
      rightRanked .member (all [
        any [expression, primaryExpression], opt optionalChain, "[", expressions, "]"])),
    (assignmentExpression,
      rightRanked .assign
        (all [opt "using", any [parenthesizedExpression, target], "=", expression])),
    (augmentedTarget,
      any [
        memberExpression, subscriptExpression, softWords, name, parenthesizedExpression,
        nonNullExpression]),
    (augmentedAssignmentExpression,
      rightRanked .assign (all [
        augmentedTarget,
        any [
          "+=", "-=", "*=", "/=", "%=", "^=", "&=", "|=", ">>=", ">>>=", "<<=", "**=", "&&=",
          "||=", "??="],
        expression])),
    (initializer, all ["=", expression]),
    (destructuring, any [objectPattern, arrayPattern]),
    (spreadElement, all ["...", expression]),
    (ternaryExpression,
      rightRanked .ternary (all [expression, plain .conditionMark, expression, ":", expression])),
    (binaryExpression,
      any [
        leftRanked .logicalAnd (all [expression, "&&", expression]),
        leftRanked .logicalOr (all [expression, "||", expression]),
        leftRanked .binaryShift (all [expression, ">>", expression]),
        leftRanked .binaryShift (all [expression, ">>>", expression]),
        leftRanked .binaryShift (all [expression, "<<", expression]),
        leftRanked .bitwiseAnd (all [expression, "&", expression]),
        leftRanked .bitwiseXor (all [expression, "^", expression]),
        leftRanked .bitwiseOr (all [expression, "|", expression]),
        leftRanked .binaryPlus (all [expression, "+", expression]),
        leftRanked .binaryPlus (all [expression, "-", expression]),
        leftRanked .binaryTimes (all [expression, "*", expression]),
        leftRanked .binaryTimes (all [expression, "/", expression]),
        leftRanked .binaryTimes (all [expression, "%", expression]),
        rightRanked .binaryExp (all [expression, "**", expression]),
        leftRanked .binaryRelation (all [expression, "<", expression]),
        leftRanked .binaryRelation (all [expression, "<=", expression]),
        leftRanked .binaryEquality (all [expression, "==", expression]),
        leftRanked .binaryEquality (all [expression, "===", expression]),
        leftRanked .binaryEquality (all [expression, "!=", expression]),
        leftRanked .binaryEquality (all [expression, "!==", expression]),
        leftRanked .binaryRelation (all [expression, ">=", expression]),
        leftRanked .binaryRelation (all [expression, ">", expression]),
        leftRanked .ternary (all [expression, "??", expression]),
        leftRanked .binaryRelation (all [expression, "instanceof", expression]),
        leftRanked .binaryRelation (all [any [expression, privateName], "in", expression])]),
    (unaryExpression,
      leftRanked .unaryVoid
        (all [any ["!", "~", "-", "+", "typeof", "void", "delete"], expression])),
    (updateExpression,
      leftSided (any [all [expression, any ["++", "--"]], all [any ["++", "--"], expression]])),
    (expressionSequence, rightSided (commas expression)),
    (string,
      any [
        all ["\"", many (any [plain .doubleText, escape]), "\""],
        all ["'", many (any [plain .singleText, escape]), "'"]]),
    (templateString,
      all ["\x60", many (any [templateText, escape, templateSubstitution]), "\x60"]),
    (templateSubstitution, all ["$\x7b", expressions, "\x7d"]),
    (regex, all ["/", plain .regexBody, plain .regexEnd, opt (plain .regexFlags)]),
    (metaProperty, any [all ["new", ".", "target"], all ["import", ".", "meta"]]),
    (arguments, all ["(", opt (commas (opt (any [expression, spreadElement]))), ")"]),
    (pattern, weighted (-1) (any [target, restPattern])),
    (restPattern, rightSided (all ["...", target])),
    (pair, all [memberName, ":", expression]),
    (pairPattern, all [memberName, ":", any [pattern, assignmentPattern]]),
    (memberName, any [name, softWords, privateName, string, number, computedPropertyName]),
    (computedPropertyName, all ["[", expression, "]"]),
    (nonNullExpression, leftRanked .unary (all [expression, "!"])),
    (typeAssertion, leftRanked .unary (all [typeArguments, expression])),
    (asExpression, leftRanked .binary (all [expression, "as", any ["const", type]])),
    (satisfiesExpression, leftRanked .binary (all [expression, "satisfies", type])),
    (instantiationExpression, unsided .instantiation (all [expression, typeArguments]))]

end CodeBlock.Snippet.Grammar
