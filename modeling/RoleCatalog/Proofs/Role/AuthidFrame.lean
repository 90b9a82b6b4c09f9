import RoleCatalog.Proofs.Frame.Sound
import RoleCatalog.Table.Basic

/-! # The frame of `pg_authid`

Lists that come from rows have equal lengths and the declared names are different, so
the columns of `pg_authid` make a frame under all settings, with a row for every role
that is listed.
-/

namespace RoleCatalog

namespace RoleColumns

theorem map_name_toColumns (columns : RoleColumns) :
    columns.toColumns.map Frame.Column.name = Authid.columns.map ColumnDef.name :=
  rfl

theorem sound_toColumns_ofRows (rows : List RoleRow) :
    Frame.Sound (ofRows rows).toColumns := by
  have names : ((ofRows rows).toColumns.map Frame.Column.name).Nodup := by
    rw [map_name_toColumns]
    decide
  exact Frame.sound_cons_iff.mpr ⟨names, by simp [ofRows]⟩

theorem toFrame_ofRows (rows : List RoleRow) :
    (ofRows rows).toFrame = .ok ⟨(ofRows rows).toColumns⟩ :=
  Frame.ofColumns_of_sound (sound_toColumns_ofRows rows)

end RoleColumns

theorem Role.listed_of_includePredefined {settings : Settings}
    (shown : settings.includePredefined = true) : Role.listed settings = Role.wellKnown := by
  simp [Role.listed, shown]

/-- The frame that `pg_authid` builds. -/
def Authid.frame (settings : Settings) : Frame :=
  ⟨(RoleColumns.synthesize settings).toColumns⟩

theorem Table.build_authid (settings : Settings) :
    Table.authid.build settings = .ok (Authid.frame settings) :=
  Frame.mapError_report_eq_ok_iff.mpr (RoleColumns.toFrame_ofRows (RoleRow.synthesize settings))

namespace Authid

@[simp] theorem height_frame (settings : Settings) :
    (frame settings).height = (Role.listed settings).length := by
  simp [frame, Frame.height, RoleColumns.toColumns, RoleColumns.synthesize, RoleColumns.ofRows,
    RoleRow.synthesize]

theorem map_oid_synthesize (settings : Settings) :
    (RoleRow.synthesize settings).map RoleRow.oid = (Role.listed settings).map Role.oid := by
  simp [RoleRow.synthesize, RoleRow.ofRole]

theorem map_rolname_synthesize (settings : Settings) :
    (RoleRow.synthesize settings).map RoleRow.rolname =
      (Role.listed settings).map (Role.displayName settings) := by
  simp [RoleRow.synthesize, RoleRow.ofRole]

theorem column?_oid (settings : Settings) :
    (frame settings).column? "oid" =
      some (.ofOids "oid" ((Role.listed settings).map Role.oid)) := by
  rw [← map_oid_synthesize]
  rfl

theorem column?_rolname (settings : Settings) :
    (frame settings).column? "rolname" =
      some (.ofTexts "rolname" ((Role.listed settings).map (Role.displayName settings))) := by
  rw [← map_rolname_synthesize]
  rfl

end Authid

end RoleCatalog
