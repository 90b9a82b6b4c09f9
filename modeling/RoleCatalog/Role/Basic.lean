import RoleCatalog.Oid
import RoleCatalog.Report.Basic
import RoleCatalog.Settings

/-! Roles whose object identifiers are fixed by the catalog. One of them is the
bootstrap superuser; the others are predefined, and their names begin with the
reserved `pg_`. The name that the bootstrap superuser goes by is a setting, so a
name never resolves to it. -/

namespace RoleCatalog

namespace RoleOid

def bootstrapSuperuser : Oid := 10
def pgDatabaseOwner : Oid := 6171
def pgReadAllData : Oid := 6181
def pgWriteAllData : Oid := 6182
def pgMonitor : Oid := 3373
def pgReadAllSettings : Oid := 3374
def pgReadAllStats : Oid := 3375
def pgStatScanTables : Oid := 3377
def pgReadServerFiles : Oid := 4569
def pgWriteServerFiles : Oid := 4570
def pgExecuteServerProgram : Oid := 4571
def pgSignalBackend : Oid := 4200
def pgCheckpoint : Oid := 4544
def pgUseReservedConnections : Oid := 4550
def pgCreateSubscription : Oid := 6304

end RoleOid

structure Role where
  oid : Oid
  symbol : String
  name : String
  description : String
deriving Repr, DecidableEq

namespace Role

def isBootstrap (role : Role) : Bool :=
  role.oid == RoleOid.bootstrapSuperuser

/-- The name under which a role is shown. -/
def displayName (settings : Settings) (role : Role) : String :=
  if role.isBootstrap then settings.bootstrapSuperuser else role.name

def wellKnown : List Role :=
  [⟨RoleOid.bootstrapSuperuser, "BOOTSTRAP_SUPERUSERID", "POSTGRES",
      "bootstrap superuser created by initdb"⟩,
   ⟨RoleOid.pgDatabaseOwner, "ROLE_PG_DATABASE_OWNER", "pg_database_owner",
      "implicitly contains the owner of the current database"⟩,
   ⟨RoleOid.pgReadAllData, "ROLE_PG_READ_ALL_DATA", "pg_read_all_data",
      "read all tables, views and sequences"⟩,
   ⟨RoleOid.pgWriteAllData, "ROLE_PG_WRITE_ALL_DATA", "pg_write_all_data",
      "write all tables, views and sequences"⟩,
   ⟨RoleOid.pgMonitor, "ROLE_PG_MONITOR", "pg_monitor",
      "read and execute monitoring views and functions"⟩,
   ⟨RoleOid.pgReadAllSettings, "ROLE_PG_READ_ALL_SETTINGS", "pg_read_all_settings",
      "read all configuration variables"⟩,
   ⟨RoleOid.pgReadAllStats, "ROLE_PG_READ_ALL_STATS", "pg_read_all_stats",
      "read all pg_stat_* views"⟩,
   ⟨RoleOid.pgStatScanTables, "ROLE_PG_STAT_SCAN_TABLES", "pg_stat_scan_tables",
      "run monitoring functions that take ACCESS SHARE locks"⟩,
   ⟨RoleOid.pgReadServerFiles, "ROLE_PG_READ_SERVER_FILES", "pg_read_server_files",
      "read files on the server filesystem"⟩,
   ⟨RoleOid.pgWriteServerFiles, "ROLE_PG_WRITE_SERVER_FILES", "pg_write_server_files",
      "write files on the server filesystem"⟩,
   ⟨RoleOid.pgExecuteServerProgram, "ROLE_PG_EXECUTE_SERVER_PROGRAM", "pg_execute_server_program",
      "execute programs on the server"⟩,
   ⟨RoleOid.pgSignalBackend, "ROLE_PG_SIGNAL_BACKEND", "pg_signal_backend",
      "cancel queries or terminate other sessions"⟩,
   ⟨RoleOid.pgCheckpoint, "ROLE_PG_CHECKPOINT", "pg_checkpoint",
      "run the CHECKPOINT command"⟩,
   ⟨RoleOid.pgUseReservedConnections, "ROLE_PG_USE_RESERVED_CONNECTIONS",
      "pg_use_reserved_connections", "use connection slots reserved by reserved_connections"⟩,
   ⟨RoleOid.pgCreateSubscription, "ROLE_PG_CREATE_SUBSCRIPTION", "pg_create_subscription",
      "create subscriptions given CREATE on the database"⟩]

structure UnknownRole where
  name : String
deriving Repr, DecidableEq

def UnknownRole.report (cause : UnknownRole) : Report :=
  ⟨.notFound, "unknown_role", "role \"" ++ cause.name ++ "\" does not exist"⟩

def ofOid? (oid : Oid) : Option Role :=
  wellKnown.find? fun role => role.oid == oid

/-- Names of roles are compared exactly. -/
def ofName (name : String) : Except UnknownRole Role :=
  match wellKnown.find? fun role => !role.isBootstrap && role.name == name with
  | some role => .ok role
  | none => .error ⟨name⟩

def isPredefined (oid : Oid) : Bool :=
  (ofOid? oid).any fun role => !role.isBootstrap

def isReservedName (name : String) : Bool :=
  "pg_".toList.isPrefixOf name.toList

example : isReservedName "pg_anything" ∧ ¬ isReservedName "PG_monitor" := by decide

end Role

end RoleCatalog
