import RoleCatalog.Descriptor.Basic
import RoleCatalog.Header.Render

/-! The catalog `pg_authid`. Its numbers are part of a contract on disk and on the wire. -/

namespace RoleCatalog.Authid

def relationId : Oid := 1260
def rowtypeId : Oid := 2842
def toastTable : Oid := 4175
def toastIndex : Oid := 4176
def rolnameIndex : Oid := 2676
def oidIndex : Oid := 2677

/-! Attribute numbers. -/

namespace Attnum

def oid : AttrNumber := 1
def rolname : AttrNumber := 2
def rolsuper : AttrNumber := 3
def rolinherit : AttrNumber := 4
def rolcreaterole : AttrNumber := 5
def rolcreatedb : AttrNumber := 6
def rolcanlogin : AttrNumber := 7
def rolreplication : AttrNumber := 8
def rolbypassrls : AttrNumber := 9
def rolconnlimit : AttrNumber := 10
def rolpassword : AttrNumber := 11
def rolvaliduntil : AttrNumber := 12

end Attnum

def natts : UInt64 := 12

def columns : List ColumnDef :=
  [⟨"oid", .oid, Attnum.oid, false⟩,
   ⟨"rolname", .name, Attnum.rolname, false⟩,
   ⟨"rolsuper", .bool, Attnum.rolsuper, false⟩,
   ⟨"rolinherit", .bool, Attnum.rolinherit, false⟩,
   ⟨"rolcreaterole", .bool, Attnum.rolcreaterole, false⟩,
   ⟨"rolcreatedb", .bool, Attnum.rolcreatedb, false⟩,
   ⟨"rolcanlogin", .bool, Attnum.rolcanlogin, false⟩,
   ⟨"rolreplication", .bool, Attnum.rolreplication, false⟩,
   ⟨"rolbypassrls", .bool, Attnum.rolbypassrls, false⟩,
   ⟨"rolconnlimit", .int4, Attnum.rolconnlimit, false⟩,
   ⟨"rolpassword", .text, Attnum.rolpassword, true⟩,
   ⟨"rolvaliduntil", .timestampTz, Attnum.rolvaliduntil, true⟩]

def descriptor : Descriptor where
  schema := "pg_catalog"
  relname := "pg_authid"
  relationId := relationId
  rowtypeId := rowtypeId
  toastTable := toastTable
  toastIndex := toastIndex
  shared := true
  natts := natts
  indexes :=
    [⟨rolnameIndex, "pg_authid_rolname_index", ["rolname"], true⟩,
     ⟨oidIndex, "pg_authid_oid_index", ["oid"], true⟩]
  columns := columns

def symbols : Header.Symbols where
  relation := "AuthIdRelationId"
  rowtype := "AuthIdRelation_Rowtype_Id"
  toastTable := "PgAuthidToastTable"
  toastIndex := "PgAuthidToastIndex"
  indexes := ["AuthIdRolnameIndexId", "AuthIdOidIndexId"]

def header : Except Header.SymbolMismatch String :=
  Header.render descriptor symbols Role.wellKnown

def attnumOf? (name : String) : Option AttrNumber :=
  (descriptor.columnByName? name).map ColumnDef.attnum

def nameOf? (attnum : AttrNumber) : Option String :=
  (descriptor.column? attnum).map ColumnDef.name

example : attnumOf? "RolValidUntil" = some 12 ∧ attnumOf? "rolconfig" = none := by decide
example : nameOf? 9 = some "rolbypassrls" ∧ nameOf? 0 = none ∧ nameOf? 13 = none := by decide

end RoleCatalog.Authid
