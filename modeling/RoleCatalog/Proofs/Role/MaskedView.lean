import RoleCatalog.Proofs.Table.Conformance

/-! # The masked view of the roles

`pg_roles` lists the columns of `pg_authid` in an order of its own. Each of them is the
column of that name in `pg_authid`, and the password alone has a mask in its place, so
the view shows the same rows and nothing of a password. This holds of any rows, not only
of those that the settings give.
-/

namespace RoleCatalog

/-- The view has the rows of `stored` with a mask for every password, and no role in it
has a configuration. -/
structure RolesView.Masks (view stored : Frame) : Prop where
  height : view.height = stored.height
  complete : ∀ column ∈ stored.columns, ∃ shown ∈ view.columns, shown.name = column.name
  shared : ∀ shown ∈ view.columns, ∀ column ∈ stored.columns, shown.name = column.name →
    column.name ≠ "rolpassword" → shown = column
  password : ∃ shown, view.column? "rolpassword" = some shown ∧
    shown.cells.toList = List.replicate view.height (.string passwordMask)
  config : ∃ shown, view.column? "rolconfig" = some shown ∧
    shown.cells.toList = List.replicate view.height .null

namespace RolesView

/-! ## The columns of the two tables -/

theorem mem_toColumns_of_mem_ofColumns {columns : RoleColumns} {shown : Frame.Column}
    (member : shown ∈ ofColumns columns) :
    shown.name = "rolpassword" ∨ shown.name = "rolconfig" ∨ shown ∈ columns.toColumns := by
  have each : ∀ shown ∈ ofColumns columns,
      shown.name = "rolpassword" ∨ shown.name = "rolconfig" ∨ shown ∈ columns.toColumns := by
    simp [ofColumns, RoleColumns.toColumns, Frame.Column.ofTexts, Frame.Column.ofOptionalTexts]
  exact each shown member

theorem map_name_ofColumns (columns : RoleColumns) :
    (ofColumns columns).map Frame.Column.name = Table.roles.columns.map ColumnDef.name :=
  rfl

theorem exists_shown {columns : RoleColumns} {column : Frame.Column}
    (member : column ∈ columns.toColumns) :
    ∃ shown ∈ ofColumns columns, shown.name = column.name := by
  have names : Authid.columns.map ColumnDef.name ⊆ Table.roles.columns.map ColumnDef.name := by
    decide
  have name : column.name ∈ (ofColumns columns).map Frame.Column.name := by
    rw [map_name_ofColumns]
    apply names
    rw [← RoleColumns.map_name_toColumns columns]
    exact List.mem_map_of_mem member
  exact List.mem_map.mp name

/-- The names of `pg_authid` are different, so a column under one of them is the column
that the view took over. -/
theorem eq_of_name_eq {columns : RoleColumns} {shown column : Frame.Column}
    (shownMember : shown ∈ ofColumns columns) (member : column ∈ columns.toColumns)
    (same : shown.name = column.name) (other : column.name ≠ "rolpassword") :
    shown = column := by
  have names : (columns.toColumns.map Frame.Column.name).Nodup := by
    rw [RoleColumns.map_name_toColumns]
    decide
  have noConfig : "rolconfig" ∉ columns.toColumns.map Frame.Column.name := by
    rw [RoleColumns.map_name_toColumns]
    decide
  rcases mem_toColumns_of_mem_ofColumns shownMember with password | config | taken
  · exact absurd (same ▸ password) other
  · exact absurd (config ▸ same ▸ List.mem_map_of_mem member) noConfig
  · exact List.inj_on_of_nodup_map names taken member same

/-! ## Rows -/

theorem height_ofColumns_ofRows (rows : List RoleRow) :
    (Frame.mk (ofColumns (.ofRows rows))).height = rows.length := by
  simp [Frame.height, ofColumns, RoleColumns.ofRows]

theorem height_toColumns_ofRows (rows : List RoleRow) :
    (Frame.mk (RoleColumns.ofRows rows).toColumns).height = rows.length := by
  simp [Frame.height, RoleColumns.toColumns, RoleColumns.ofRows]

theorem size_ofRows (rows : List RoleRow) : (RoleColumns.ofRows rows).size = rows.length := by
  simp [RoleColumns.size, RoleColumns.ofRows]

theorem masks_ofRows (rows : List RoleRow) :
    Masks ⟨ofColumns (.ofRows rows)⟩ ⟨(RoleColumns.ofRows rows).toColumns⟩ where
  height := by rw [height_ofColumns_ofRows, height_toColumns_ofRows]
  complete _ member := exists_shown member
  shared _ shownMember _ member same other := eq_of_name_eq shownMember member same other
  password := by
    refine ⟨_, rfl, ?_⟩
    rw [Frame.Column.toList_ofTexts, List.map_replicate, size_ofRows, height_ofColumns_ofRows]
  config := by
    refine ⟨.ofOptionalTexts "rolconfig" (List.replicate (RoleColumns.ofRows rows).size none),
      rfl, ?_⟩
    rw [size_ofRows, height_ofColumns_ofRows]
    exact List.map_replicate

/-- Under all settings `pg_roles` has the rows of `pg_authid` with the passwords masked.
The same columns would mask any other rows, with whatever passwords. -/
theorem roles_masks_authid (settings : Settings) :
    (∃ view stored, Table.roles.build settings = .ok view ∧
      Table.authid.build settings = .ok stored ∧ Masks view stored) ∧
    ∀ rows : List RoleRow, ∃ view stored,
      Frame.ofColumns (ofColumns (.ofRows rows)) = .ok view ∧
        (RoleColumns.ofRows rows).toFrame = .ok stored ∧ Masks view stored := by
  constructor
  · exact ⟨_, _, Table.build_roles settings, Table.build_authid settings,
      masks_ofRows (RoleRow.synthesize settings)⟩
  · intro rows
    exact ⟨_, _, Frame.ofColumns_of_sound (sound_ofColumns_ofRows rows),
      RoleColumns.toFrame_ofRows rows, masks_ofRows rows⟩

end RolesView

end RoleCatalog
