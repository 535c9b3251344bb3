import CodeBlock.Shell.Builtin.Basic

set_option autoImplicit false

/-! # Aliases and found programs

Both are shown in the order of tables whose rows go by the characters of the names. -/

namespace CodeBlock.Shell.Builtin

def tableRow (rows : Nat) (name : List Char) : Nat :=
  let first := (name.head?.map Char.toNat).getD 0 * 16
  ((name.foldl (fun sum c => sum + c.toNat) first) % 32768) % rows

/-- Entries in the order of a table of so many rows; in a row the first one that came stands first. -/
def inTable {α : Type} (rows : Nat) (entries : List (List Char × α)) : List (List Char × α) :=
  entries.mergeSort fun a b => decide (tableRow rows a.1 ≤ tableRow rows b.1)

def aliasLine (name meaning : List Char) : List Char := name ++ '=' :: shown meaning ++ ['\n']

/-- Defines or shows aliases. -/
def defineAlias : Builtin := fun arguments m =>
  if arguments.isEmpty then
    print "alias" ((inTable 39 m.scope.aliases).flatMap fun (name, meaning) => aliasLine name meaning) m
  else
    arguments.foldl (fun m argument =>
      match argument with
      | [] => (m.warn "alias:  not found".toList).withStatus 1
      | c :: rest =>
          match Text.splitOnce '=' rest with
          | some (name, meaning) =>
              let others := m.scope.aliases.filter fun entry => entry.1 != c :: name
              { m with scope.aliases := others ++ [(c :: name, meaning)] }
          | none =>
              match m.scope.aliases.lookup argument with
              | some meaning => m.write 1 (aliasLine argument meaning)
              | none =>
                  (m.warn ("alias: ".toList ++ argument ++ " not found".toList)).withStatus 1)
      (m.withStatus 0)

/-- Takes away aliases. -/
def forgetAlias : Builtin := withOptions [('a', false)] fun options names m =>
  if !options.isEmpty then { m with scope.aliases := [], status := 0 }
  else
    names.foldl (fun m name =>
      if (m.scope.aliases.lookup name).isSome then
        { m with scope.aliases := m.scope.aliases.filter fun entry => entry.1 != name }
      else (m.warn ("unalias: ".toList ++ name ++ " not found".toList)).withStatus 1) (m.withStatus 0)

/-- The lines that show the programs that have been found. -/
def foundListing (m : Machine) : List Char :=
  (inTable 31 m.scope.found.reverse).flatMap fun (_, path) => path ++ ['\n']

end CodeBlock.Shell.Builtin
