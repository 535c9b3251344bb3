import CodeBlock.Snippet.Grammar.Rule

set_option autoImplicit false

/-! # Types

Types, what is annotated with them, and the members of interfaces. -/

namespace CodeBlock.Snippet.Grammar

open Rule Category

/-- The rules of types. -/
def typeRules : List (Category × Rule) :=
  [
    (nestedTypeIdentifier, unsided .member (all [any [name, nestedIdentifier], ".", name])),
    (omittingMark, all ["-?:", type]),
    (addingMark, all ["+?:", type]),
    (optingMark, all ["?:", type]),
    (typeMark, all [":", any [type, importedTypeMember, importedTypeCall]]),
    (importedTypeMember,
      all [any [importWord, importedTypeMember, importedTypeCall], ".", any [privateName, name]]),
    (importedTypeCall, all [any [importWord, importedTypeMember], arguments]),
    (assertion, all ["asserts", any [typePredicate, name, "this"]]),
    (assertionMark, all [":", assertion]),
    (type,
      any [
        primaryType, functionType, readonlyType, constructorType, inferredType,
        ranked (.number (-1)) none importedTypeMember,
        ranked (.number (-1)) none importedTypeCall]),
    (tupleParameter, all [any [name, restPattern], typeMark]),
    (optionalTupleParameter, all [name, "?", typeMark]),
    (optionalType, all [type, "?"]),
    (restType, all ["...", type]),
    (tupleMember, any [tupleParameter, optionalTupleParameter, optionalType, restType, type]),
    (constructorType,
      leftSided (all [opt "abstract", "new", opt typeParameters, formalParameters, "=>", type])),
    (primaryType,
      any [
        parenthesizedType, predefinedType, name, nestedTypeIdentifier, genericType, objectType,
        arrayType, tupleType, maybeType, typeQuery, indexTypeQuery, "this", anyType,
        literalType, lookupType, conditionalType, templateLiteralType, intersectionType,
        unionType, "const"]),
    (templateType, all ["$\x7b", any [primaryType, inferredType], "\x7d"]),
    (templateLiteralType, all ["\x60", many (any [templateText, templateType]), "\x60"]),
    (inferredType, rightSided (all ["infer", name, opt (all ["extends", type])])),
    (conditionalType, rightSided (all [type, "extends", type, "?", type, ":", type])),
    (genericType, unsided .call (all [any [name, nestedTypeIdentifier], typeArguments])),
    (typePredicate, all [any [name, "this", predefinedType], "is", type]),
    (predicateMark, all [":", typePredicate]),
    (queriedMember,
      all [
        any [name, "this", queriedElement, queriedMember, queriedCall], any [".", "?."],
        any [privateName, name]]),
    (queriedElement,
      all [
        any [name, "this", queriedElement, queriedMember, queriedCall], opt "?.", "[",
        any [predefinedType, string, number], "]"]),
    (queriedCall, all [any [importWord, name, queriedMember, queriedElement], arguments]),
    (queriedInstance, all [any [importWord, name, queriedMember, queriedElement], typeArguments]),
    (typeQuery,
      rightSided (all [
        "typeof",
        any [queriedElement, queriedMember, queriedCall, queriedInstance, name, "this"]])),
    (indexTypeQuery, all ["keyof", primaryType]),
    (lookupType, all [primaryType, "[", type, "]"]),
    (mappedTypeClause, all [name, "in", type, opt (all ["as", type])]),
    (literalType, any [signedNumber, number, string, "true", "false", "null", "undefined"]),
    (signedNumber, ranked (.number 1) (some .left) (all [any ["-", "+"], number])),
    (anyType, "*"),
    (maybeType, rightSided (all ["?", primaryType])),
    (parenthesizedType, all ["(", type, ")"]),
    (predefinedType,
      any [
        "any", "number", "boolean", "string", "symbol", all ["unique", "symbol"], "void",
        "unknown", "string", "never", "object"]),
    (typeArguments, all ["<", commas type, opt ",", ">"]),
    (objectType,
      all [
        any ["\x7b", "\x7b|"],
        opt (all [
          opt (any [",", ";"]),
          separated
            (any [",", statementEnd])
            (any [
              exportStatement, propertySignature, callSignature, constructSignature,
              indexSignature, methodSignature]),
          opt (any [",", statementEnd])]),
        any ["\x7d", "|\x7d"]]),
    (callSignature, .category signature),
    (propertySignature,
      all [
        opt accessibilityModifier, opt "static", opt overrideModifier, opt "readonly", memberName,
        opt "?", opt typeMark]),
    (typeParameters, all ["<", commas typeParameter, opt ",", ">"]),
    (typeParameter, all [opt "const", name, opt typeConstraint, opt defaultType]),
    (defaultType, all ["=", type]),
    (typeConstraint, all [any ["extends", ":"], type]),
    (constructSignature,
      all [opt "abstract", "new", opt typeParameters, formalParameters, opt typeMark]),
    (indexSignature,
      all [
        opt (all [opt (any ["-", "+"]), "readonly"]), "[",
        any [all [any [name, softWords], ":", type], mappedTypeClause], "]",
        any [typeMark, omittingMark, addingMark, optingMark]]),
    (arrayType, all [primaryType, "[", "]"]),
    (tupleType, all ["[", opt (commas tupleMember), opt ",", "]"]),
    (readonlyType, all ["readonly", type]),
    (unionType, leftSided (all [opt type, "|", type])),
    (intersectionType, leftSided (all [opt type, "&", type])),
    (functionType,
      leftSided (all [
        opt typeParameters, formalParameters, "=>", any [type, assertion, typePredicate]]))]

end CodeBlock.Snippet.Grammar
