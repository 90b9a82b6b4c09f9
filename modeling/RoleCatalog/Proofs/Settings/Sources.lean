import RoleCatalog.Proofs.Text.Trim
import RoleCatalog.Settings

/-! # Settings and their sources

The name of the bootstrap superuser is the trimmed text of the first source that is not
blank, or the default name. So it is never blank and has no blank at its ends, and read
again as a variable it gives itself. The flag is off exactly for a few words.
-/

namespace RoleCatalog.Settings

/-- The source is missing, or there are only blanks in it. -/
def Unset (source : Option String) : Prop :=
  ∀ text ∈ source, ∀ character ∈ text.toList, Text.isBlank character = true

/-- The source has the name with blanks around it. -/
def Gives (source : Option String) (name : String) : Prop :=
  name ≠ "" ∧ ∃ text ∈ source, Text.Trims text.toList name.toList

/-- Where the name of the bootstrap superuser comes from, given the variable and the user
who runs the program. -/
inductive NamedFrom (setting osUser : Option String) : String → Prop where
  | setting {name : String} (gives : Gives setting name) : NamedFrom setting osUser name
  | osUser {name : String} (unset : Unset setting) (gives : Gives osUser name) :
      NamedFrom setting osUser name
  | standard (unset : Unset setting) (unknown : Unset osUser) :
      NamedFrom setting osUser "postgres"

theorem nonblank?_eq_some_iff {text name : String} :
    nonblank? text = some name ↔ name ≠ "" ∧ Text.Trims text.toList name.toList := by
  rw [nonblank?, Text.trims_toList_iff]
  split
  · rename_i blank
    simp only [blank, reduceCtorEq, false_iff, not_and]
    exact fun nonempty empty => nonempty empty.symm
  · rename_i visible
    rw [Option.some.injEq]
    constructor
    · rintro rfl
      exact ⟨visible, rfl⟩
    · exact fun given => given.2

theorem nonblank?_eq_none_iff {text : String} :
    nonblank? text = none ↔ ∀ character ∈ text.toList, Text.isBlank character = true := by
  rw [nonblank?, ← Text.trimmed_eq_empty_iff]
  simp

theorem bind_nonblank?_eq_some_iff {source : Option String} {name : String} :
    source.bind nonblank? = some name ↔ Gives source name := by
  cases source with
  | none => simp [Gives]
  | some text => simp [Gives, nonblank?_eq_some_iff]

theorem bind_nonblank?_eq_none_iff {source : Option String} :
    source.bind nonblank? = none ↔ Unset source := by
  cases source with
  | none => simp [Unset]
  | some text => simp [Unset, nonblank?_eq_none_iff]

/-- The sources decide the name. -/
theorem namedFrom_iff {setting osUser : Option String} {name : String} :
    NamedFrom setting osUser name ↔
      name = ((setting.bind nonblank?).or (osUser.bind nonblank?)).getD defaultSuperuser := by
  constructor
  · rintro (gives | ⟨unset, gives⟩ | ⟨unset, unknown⟩)
    · rw [bind_nonblank?_eq_some_iff.mpr gives]
      rfl
    · rw [bind_nonblank?_eq_none_iff.mpr unset, bind_nonblank?_eq_some_iff.mpr gives]
      rfl
    · rw [bind_nonblank?_eq_none_iff.mpr unset, bind_nonblank?_eq_none_iff.mpr unknown]
      rfl
  · rintro rfl
    cases given : setting.bind nonblank? with
    | some name => exact .setting (bind_nonblank?_eq_some_iff.mp given)
    | none =>
        have unset := bind_nonblank?_eq_none_iff.mp given
        cases known : osUser.bind nonblank? with
        | some name => exact .osUser unset (bind_nonblank?_eq_some_iff.mp known)
        | none => exact .standard unset (bind_nonblank?_eq_none_iff.mp known)

theorem Gives.tight {source : Option String} {name : String} (gives : Gives source name) :
    Text.Tight name.toList := by
  rcases gives with ⟨-, text, -, trims⟩
  exact trims.tight

/-- A name with nothing to trim is given by itself. -/
theorem Gives.of_tight {name : String} (nonempty : name ≠ "") (tight : Text.Tight name.toList) :
    Gives (some name) name :=
  ⟨nonempty, name, rfl, Text.trims_iff.mpr tight.trim_eq⟩

theorem NamedFrom.nonempty {setting osUser : Option String} {name : String}
    (named : NamedFrom setting osUser name) : name ≠ "" := by
  cases named with
  | setting gives => exact gives.1
  | osUser _ gives => exact gives.1
  | standard => decide

theorem NamedFrom.tight {setting osUser : Option String} {name : String}
    (named : NamedFrom setting osUser name) : Text.Tight name.toList := by
  cases named with
  | setting gives => exact gives.tight
  | osUser _ gives => exact gives.tight
  | standard =>
      constructor
      · intro character isHead
        cases isHead
        rfl
      · intro character isLast
        cases isLast
        rfl

theorem flagIsOn_eq_false_iff {text : String} :
    flagIsOn text = false ↔ ∃ word ∈ offWords, Text.SameFold (Text.trimmed text) word := by
  simp [flagIsOn]

section Lookup

variable (lookup : String → Option String) (osUser : Option String)

theorem namedFrom_ofLookup :
    NamedFrom (lookup superuserVariable) osUser (ofLookup lookup osUser).bootstrapSuperuser :=
  namedFrom_iff.mpr rfl

theorem includePredefined_ofLookup_eq_false_iff :
    (ofLookup lookup osUser).includePredefined = false ↔
      ∃ text value word, lookup predefinedVariable = some text ∧
        Text.Trims text.toList value.toList ∧ word ∈ offWords ∧ Text.SameFold value word := by
  change ((lookup predefinedVariable).map flagIsOn).getD true = false ↔ _
  cases lookup predefinedVariable with
  | none => simp
  | some text =>
      rw [Option.map_some, Option.getD_some, flagIsOn_eq_false_iff]
      constructor
      · rintro ⟨word, off, same⟩
        exact ⟨text, Text.trimmed text, word, rfl, Text.trims_toList_iff.mpr rfl, off, same⟩
      · rintro ⟨_, value, word, given, trims, off, same⟩
        cases given
        rw [Text.trims_toList_iff.mp trims]
        exact ⟨word, off, same⟩

end Lookup

/-- The superuser has a name without blanks at its ends, which comes from the first source
that is not blank or is the default one. Predefined roles are left out for four words only.
Nothing but the two variables and the user counts, and settings that are written into the
variables are read again whoever the user is. -/
theorem ofLookup_names_from_sources (lookup : String → Option String)
    (osUser : Option String) :
    ((ofLookup lookup osUser).bootstrapSuperuser ≠ "" ∧
      Text.Tight (ofLookup lookup osUser).bootstrapSuperuser.toList) ∧
    (∀ name, NamedFrom (lookup "AUTHID_BOOTSTRAP_SUPERUSER") osUser name ↔
      name = (ofLookup lookup osUser).bootstrapSuperuser) ∧
    ((ofLookup lookup osUser).includePredefined = false ↔
      ∃ text value word, lookup "AUTHID_INCLUDE_PREDEFINED" = some text ∧
        Text.Trims text.toList value.toList ∧ word ∈ ["0", "false", "no", "off"] ∧
        Text.SameFold value word) ∧
    (∀ other : String → Option String,
      other "AUTHID_BOOTSTRAP_SUPERUSER" = lookup "AUTHID_BOOTSTRAP_SUPERUSER" →
      other "AUTHID_INCLUDE_PREDEFINED" = lookup "AUTHID_INCLUDE_PREDEFINED" →
      ofLookup other osUser = ofLookup lookup osUser) ∧
    ∀ (other : String → Option String) (anyUser : Option String),
      other "AUTHID_BOOTSTRAP_SUPERUSER" =
        some (ofLookup lookup osUser).bootstrapSuperuser →
      other "AUTHID_INCLUDE_PREDEFINED" =
        some (if (ofLookup lookup osUser).includePredefined then "true" else "false") →
      ofLookup other anyUser = ofLookup lookup osUser := by
  have named := namedFrom_ofLookup lookup osUser
  refine ⟨⟨named.nonempty, named.tight⟩, fun name => namedFrom_iff,
    includePredefined_ofLookup_eq_false_iff lookup osUser, ?_, ?_⟩
  · intro other sameName sameFlag
    simp only [ofLookup, superuserVariable, predefinedVariable, sameName, sameFlag]
  · intro other anyUser nameWritten flagWritten
    have gives := Gives.of_tight named.nonempty named.tight
    have name : (ofLookup other anyUser).bootstrapSuperuser =
        (ofLookup lookup osUser).bootstrapSuperuser :=
      (namedFrom_iff.mp (.setting (nameWritten ▸ gives))).symm
    have flag : (ofLookup other anyUser).includePredefined =
        (ofLookup lookup osUser).includePredefined := by
      change ((other "AUTHID_INCLUDE_PREDEFINED").map flagIsOn).getD true = _
      rw [flagWritten]
      cases (ofLookup lookup osUser).includePredefined <;> decide
    exact congrArg₂ Settings.mk name flag

/-- An environment of the two variables. -/
def environment (name flag : String) (key : String) : Option String :=
  if key = superuserVariable then some name
  else if key = predefinedVariable then some flag
  else none

/-- Variables with blanks of several kinds around their values. -/
theorem ofLookup_of_padded_variables :
    ofLookup (environment " \u3000root\t" "\nNo") none = ⟨"root", false⟩ ∧
    ofLookup (fun key => if key = "HOME" then some "/" else environment " \u3000root\t" "\nNo" key)
      none = ofLookup (environment " \u3000root\t" "\nNo") none ∧
    ofLookup (environment "root" "false") (some "alice") =
      ofLookup (environment " \u3000root\t" "\nNo") none := by
  have law := ofLookup_names_from_sources (environment " \u3000root\t" "\nNo") none
  exact ⟨by decide, law.2.2.2.1 _ (by decide) (by decide),
    law.2.2.2.2 (environment "root" "false") (some "alice") (by decide) (by decide)⟩

end RoleCatalog.Settings
