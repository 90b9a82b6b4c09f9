import RoleCatalog.Descriptor.Basic
import RoleCatalog.Header.Basic
import RoleCatalog.Role.Basic

/-! The header of a relation. After a banner and a guard it binds, in groups with an
empty line between them, the objects of the relation, its columns, their number
and the roles that go with it. -/

namespace RoleCatalog.Header

/-! The symbols for the objects of a relation; those of the indexes run beside the
index list of its descriptor. -/

structure Symbols where
  relation : String
  rowtype : String
  toastTable : String
  toastIndex : String
  indexes : List String
deriving Repr, DecidableEq

def Symbols.toList (symbols : Symbols) : List String :=
  symbols.relation :: symbols.rowtype :: symbols.toastTable :: symbols.toastIndex ::
    symbols.indexes

structure SymbolMismatch where
  relname : String
  symbols : Nat
  indexes : Nat
deriving Repr, DecidableEq

def SymbolMismatch.report (cause : SymbolMismatch) : Report :=
  ⟨.internal, "header_names_mismatch",
    s!"{cause.relname}: {cause.symbols} index macro names for {cause.indexes} indexes"⟩

def objectBindings (descriptor : Descriptor) (symbols : Symbols) : List Binding :=
  symbols.toList.zipWith (fun symbol object => ⟨symbol, object.oid.toNat⟩) descriptor.relationOids

def columnBindings (descriptor : Descriptor) : List Binding :=
  descriptor.columns.map fun column =>
    ⟨"Anum_" ++ descriptor.relname ++ "_" ++ column.name, column.attnum.toInt⟩

def nattsBinding (descriptor : Descriptor) : Binding :=
  ⟨"Natts_" ++ descriptor.relname, descriptor.natts.toNat⟩

def roleBindings (roles : List Role) : List Binding :=
  roles.map fun role => ⟨role.symbol, role.oid.toNat⟩

def bindings (descriptor : Descriptor) (symbols : Symbols) (roles : List Role) : List Binding :=
  objectBindings descriptor symbols ++ columnBindings descriptor ++
    nattsBinding descriptor :: roleBindings roles

def bannerRule : String :=
  String.ofList (List.replicate 73 '-')

def banner (relname : String) : List String :=
  ["/*" ++ bannerRule,
   " *",
   " * " ++ relname ++ "_d.h",
   " *    Macro definitions for " ++ relname,
   " *",
   " * Portions Copyright (c) 1996-2023, PostgreSQL Global Development Group",
   " * Portions Copyright (c) 1994, Regents of the University of California",
   " *",
   " * NOTES",
   " *  ******************************",
   " *  *** DO NOT EDIT THIS FILE! ***",
   " *  ******************************",
   " *",
   " *  It has been GENERATED by src/backend/catalog/genbki.pl",
   " *",
   " *" ++ bannerRule,
   " */"]

def guard (relname : String) : String :=
  Text.asciiUpper relname ++ "_D_H"

/-- A group stands after an empty line. -/
def group (members : List Binding) : List String :=
  "" :: members.map Binding.line

def optionalGroup (members : List Binding) : List String :=
  if members.isEmpty then [] else group members

def headerLines (descriptor : Descriptor) (symbols : Symbols) (roles : List Role) : List String :=
  banner descriptor.relname ++
    ["#ifndef " ++ guard descriptor.relname, defineWord ++ " " ++ guard descriptor.relname] ++
    group (objectBindings descriptor symbols) ++
    group (columnBindings descriptor) ++
    group [nattsBinding descriptor] ++
    optionalGroup (roleBindings roles) ++
    ["", "#endif\t\t\t\t\t\t\t/* " ++ guard descriptor.relname ++ " */"]

/-- The text does not end with a line feed. -/
def render (descriptor : Descriptor) (symbols : Symbols) (roles : List Role) :
    Except SymbolMismatch String :=
  if symbols.indexes.length = descriptor.indexes.length then
    .ok ("\n".intercalate (headerLines descriptor symbols roles))
  else
    .error ⟨descriptor.relname, symbols.indexes.length, descriptor.indexes.length⟩

theorem render_eq_ok_iff {descriptor : Descriptor} {symbols : Symbols} {roles : List Role}
    {text : String} :
    render descriptor symbols roles = .ok text ↔
      symbols.indexes.length = descriptor.indexes.length ∧
        "\n".intercalate (headerLines descriptor symbols roles) = text := by
  unfold render
  split <;> simp_all

/-! What reading a rendered header back can fail with. -/

inductive RoundTripError where
  | mismatch (cause : SymbolMismatch)
  | badDefine (cause : BadDefine)
deriving Repr, DecidableEq

def RoundTripError.report : RoundTripError → Report
  | .mismatch cause => cause.report
  | .badDefine cause => cause.report

def roundTrip (descriptor : Descriptor) (symbols : Symbols) (roles : List Role) :
    Except RoundTripError (List Binding) := do
  let text ← (render descriptor symbols roles).mapError .mismatch
  (parse text).mapError .badDefine

end RoleCatalog.Header
