import CodeBlock.Snippet.Grammar.Rule

set_option autoImplicit false

/-! # Statements

Statements and their parts, and the declarations that are not of functions or classes. -/

namespace CodeBlock.Snippet.Grammar

open Rule Category

/-- The rules of statements. -/
def statementRules : List (Category × Rule) :=
  [
    (declaration,
      any [
        functionDeclaration, generatorDeclaration, classDeclaration, letDeclaration,
        varDeclaration, functionSignature, abstractClassDeclaration, moduleDeclaration,
        unsided .declare namespaceDeclaration, typeAliasDeclaration, enumDeclaration,
        interfaceDeclaration, importAlias, ambientDeclaration]),
    (statement,
      any [
        exportStatement, importStatement, debuggerStatement, expressionStatement, declaration,
        block, ifStatement, switchStatement, forStatement, forInStatement, whileStatement,
        doStatement, tryStatement, withStatement, breakStatement, continueStatement,
        returnStatement, throwStatement, emptyStatement, labeledStatement]),
    (expressionStatement, all [expressions, statementEnd]),
    (varDeclaration, all ["var", commas variableBinding, statementEnd]),
    (letDeclaration, all [any ["let", "const"], commas variableBinding, statementEnd]),
    (variableBinding,
      any [
        all [any [name, destructuring], opt typeMark, opt initializer],
        unsided .declare (all [name, "!", typeMark])]),
    (block, rightSided (all ["\x7b", many statement, "\x7d", opt ending])),
    (elseClause, all ["else", statement]),
    (ifStatement, rightSided (all ["if", parenthesizedExpression, statement, opt elseClause])),
    (switchStatement, all ["switch", parenthesizedExpression, switchBody]),
    (forStatement,
      all [
        "for", "(", any [letDeclaration, varDeclaration, all [expressions, ";"], emptyStatement],
        any [all [expressions, ";"], emptyStatement], opt expressions, ")", statement]),
    (forInStatement, all ["for", opt "await", forHeader, statement]),
    (forHeader,
      all [
        "(",
        any [
          target, parenthesizedExpression,
          all ["var", any [name, destructuring], opt initializer],
          all [any ["let", "const"], any [name, destructuring], opt ending]],
        any ["in", "of"], expressions, ")"]),
    (whileStatement, all ["while", parenthesizedExpression, statement]),
    (doStatement,
      rightSided (all ["do", statement, "while", parenthesizedExpression, opt statementEnd])),
    (tryStatement, all ["try", block, opt catchClause, opt finallyClause]),
    (withStatement, all ["with", parenthesizedExpression, statement]),
    (breakStatement, all ["break", opt name, statementEnd]),
    (continueStatement, all ["continue", opt name, statementEnd]),
    (debuggerStatement, all ["debugger", statementEnd]),
    (returnStatement, all ["return", opt expressions, statementEnd]),
    (throwStatement, all ["throw", expressions, statementEnd]),
    (emptyStatement, ";"),
    (labeledStatement, weighted (-1) (all [any [name, softWords], ":", statement])),
    (switchBody, all ["\x7b", many (any [switchCase, switchDefault]), "\x7d"]),
    (switchCase, all ["case", expressions, ":", many statement]),
    (switchDefault, all ["default", ":", many statement]),
    (catchClause,
      all ["catch", opt (all ["(", any [name, destructuring], opt typeMark, ")"]), block]),
    (finallyClause, all ["finally", block]),
    (interfaceDeclaration,
      unsided .declare
        (all ["interface", name, opt typeParameters, opt extendsTypeClause, objectType])),
    (extendsTypeClause, all ["extends", commas (any [name, nestedTypeIdentifier, genericType])]),
    (enumDeclaration, unsided .declare (all [opt "const", "enum", name, enumBody])),
    (enumBody,
      all ["\x7b", opt (all [commas (any [memberName, enumAssignment]), opt ","]), "\x7d"]),
    (enumAssignment, all [memberName, initializer]),
    (typeAliasDeclaration,
      unsided .declare (all ["type", name, opt typeParameters, "=", type, statementEnd]))]

end CodeBlock.Snippet.Grammar
