import CodeBlock.Snippet.Grammar.Rule

set_option autoImplicit false

/-! # Modules, exports and imports

The snippet as a whole, what it takes from other modules and gives to them, and modules in it. -/

namespace CodeBlock.Snippet.Grammar

open Rule Category

/-- The rules of modules, exports and imports. -/
def moduleRules : List (Category × Rule) :=
  [
    (snippet, all [opt (plain .launcher), many statement]),
    (exportStatement,
      any [
        all [
          "export",
          any [
            all ["*", fromClause], all [exportedNamespace, fromClause],
            all [exportedNames, fromClause], exportedNames],
          statementEnd],
        all [
          many decorator, "export",
          any [declaration, all ["default", any [declaration, all [expression, statementEnd]]]]],
        all ["export", "type", exportedNames, opt fromClause, statementEnd],
        all ["export", "import", importAlias], all ["export", "=", expression, statementEnd],
        all ["export", "as", "namespace", name, statementEnd]]),
    (exportedNamespace, all ["*", "as", moduleMember]),
    (exportedNames, all ["\x7b", opt (commas exportedName), opt ",", "\x7d"]),
    (exportedName,
      all [opt (any ["type", "typeof"]), moduleMember, opt (all ["as", moduleMember])]),
    (moduleMember, any [name, string, "default"]),
    (importWord, "import"),
    (importStatement,
      all [
        "import", opt (any ["type", "typeof"]),
        any [all [importClause, fromClause], requiredModule, string], opt importAttributes,
        statementEnd]),
    (importClause,
      any [
        importedNamespace, importedNames,
        all [importIdentifier, opt (all [",", any [importedNamespace, importedNames]])]]),
    (fromClause, all ["from", string]),
    (importedNamespace, all ["*", "as", name]),
    (importedNames, all ["\x7b", opt (commas importedName), opt ",", "\x7d"]),
    (importedName,
      all [
        opt (any ["type", "typeof"]),
        any [importIdentifier, all [any [moduleMember, named "type"], "as", importIdentifier]]]),
    (importAttributes, all [any ["with", "assert"], object]),
    (importIdentifier, any [name, named "type"]),
    (requiredModule, all [name, "=", "require", "(", string, ")"]),
    (ambientDeclaration,
      all [
        "declare",
        any [
          declaration, all ["global", block], all ["module", ".", name, ":", type, statementEnd]]]),
    (moduleDeclaration, all ["module", moduleRest]),
    (namespaceDeclaration, all ["namespace", moduleRest]),
    (moduleRest, rightSided (all [any [string, name, nestedIdentifier], opt block])),
    (nestedIdentifier, unsided .member (all [any [name, nestedIdentifier], ".", name])),
    (importAlias, all ["import", name, "=", any [name, nestedIdentifier], statementEnd])]

end CodeBlock.Snippet.Grammar
