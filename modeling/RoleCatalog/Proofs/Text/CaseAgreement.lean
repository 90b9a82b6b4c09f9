import RoleCatalog.Proofs.Text.LowerCase
import Mathlib.Data.List.Basic

/-! # Where lower case is ASCII lower case

Lower case changes letters of all alphabets, and the fold of a name only those of ASCII.
The two agree on a text exactly when they agree on each of its characters by itself,
although a sigma looks at the letters around it: both of its lower case forms differ
from the letter that the fold keeps. No letter in lower case is one that the fold would
change again, or a separator of names.
-/

namespace RoleCatalog.Text

/-! ## Letters of the runs -/

theorem bounds_of_findLowerRun {code : Nat} {runs : List LowerRun} {run : LowerRun}
    (found : findLowerRun code runs = some run) : run ∈ runs ∧ code ≤ run.last := by
  induction runs with
  | nil => cases found
  | cons head rest induction =>
      rw [findLowerRun] at found
      split at found
      · cases found
      · split at found
        · rename_i inside
          cases found
          simp only [LowerRun.contains, Bool.and_eq_true, decide_eq_true_eq] at inside
          exact ⟨List.mem_cons_self, inside.1.2⟩
        · have later := induction found
          exact ⟨List.mem_cons_of_mem head later.1, later.2⟩

theorem toNat_ofNat_eq_or (code : Nat) :
    (Char.ofNat code).toNat = code ∨ (Char.ofNat code).toNat = 0 := by
  by_cases valid : code.isValidChar
  · exact .inl (congrArg Char.toNat (dif_pos valid))
  · exact .inr (congrArg Char.toNat (dif_neg valid))

/-- A lower case letter among codes that no run leads to is the character itself. -/
theorem lowerLetter_eq_self_of_apart {first last : Nat} (positive : 0 < first)
    (apart : ∀ run ∈ lowerRuns, last < run.lower ∨ run.lower + (run.last - run.first) < first)
    {character : Char} (lower : first ≤ (lowerLetter character).toNat)
    (upper : (lowerLetter character).toNat ≤ last) : lowerLetter character = character := by
  cases found : findLowerRun character.toNat lowerRuns with
  | none => simp only [lowerLetter, found]
  | some run =>
      have bounds := bounds_of_findLowerRun found
      have outside := apart run bounds.1
      simp only [lowerLetter, found, LowerRun.lowerCode] at lower upper
      rcases toNat_ofNat_eq_or (run.lower + (character.toNat - run.first)) with code | code <;>
        omega

theorem toLower_lowerLetter (character : Char) :
    (lowerLetter character).toLower = lowerLetter character := by
  have apart : ∀ run ∈ lowerRuns,
      90 < run.lower ∨ run.lower + (run.last - run.first) < 65 := by decide +kernel
  cases upper : (lowerLetter character).isUpper with
  | false => exact toLower_of_not_isUpper upper
  | true =>
      have bounds : 65 ≤ (lowerLetter character).toNat ∧ (lowerLetter character).toNat ≤ 90 :=
        of_decide_eq_true upper
      have same : lowerLetter character = character :=
        lowerLetter_eq_self_of_apart (by decide) apart bounds.1 bounds.2
      have ascii : character.toNat < 128 := by rw [← same]; omega
      rw [lowerLetter_of_ascii ascii, toLower_toLower]

/-- The full stop and the slash are in lower case only by themselves. -/
theorem eq_of_lowerLetter_eq {separator character : Char}
    (isSeparator : separator = '.' ∨ separator = '/')
    (same : lowerLetter character = separator) : character = separator := by
  have apart : ∀ run ∈ lowerRuns,
      47 < run.lower ∨ run.lower + (run.last - run.first) < 46 := by decide +kernel
  have bounds : 46 ≤ separator.toNat ∧ separator.toNat ≤ 47 := by
    rcases isSeparator with rfl | rfl <;> decide
  rw [← same] at bounds ⊢
  exact (lowerLetter_eq_self_of_apart (by decide) apart bounds.1 bounds.2).symm

/-! ## One character in its context -/

/-- The letters that the two exceptions of lower case give. -/
def exceptionalLetters : List Char :=
  ['ς', 'σ', 'i', '\u0307']

theorem lowerSigma_mem_exceptionalLetters (preceding following : List Char) :
    lowerSigma preceding following ∈ exceptionalLetters := by
  unfold lowerSigma
  split <;> decide

theorem eq_or_mem_of_mem_lowerCharacter {preceding following : List Char}
    {character lowered : Char}
    (member : lowered ∈ lowerCharacter preceding character following) :
    lowered = lowerLetter character ∨ lowered ∈ exceptionalLetters := by
  unfold lowerCharacter at member
  split at member
  · rw [List.mem_singleton.mp member]
    exact .inr (lowerSigma_mem_exceptionalLetters preceding following)
  · split at member
    · exact .inr (List.mem_append_right ['ς', 'σ'] member)
    · exact .inl (List.mem_singleton.mp member)

theorem lowerCharacter_ne_nil (preceding : List Char) (character : Char)
    (following : List Char) : lowerCharacter preceding character following ≠ [] := by
  unfold lowerCharacter
  split
  · exact List.cons_ne_nil _ _
  · split <;> exact List.cons_ne_nil _ _

theorem toLower_of_mem_lowerCharacter {preceding following : List Char}
    {character lowered : Char} (member : lowered ∈ lowerCharacter preceding character following) :
    lowered.toLower = lowered := by
  rcases eq_or_mem_of_mem_lowerCharacter member with rfl | letter
  · exact toLower_lowerLetter character
  · simp only [exceptionalLetters, List.mem_cons, List.not_mem_nil, or_false] at letter
    rcases letter with rfl | rfl | rfl | rfl <;> decide

theorem eq_of_mem_lowerCharacter {preceding following : List Char} {character separator : Char}
    (isSeparator : separator = '.' ∨ separator = '/')
    (member : separator ∈ lowerCharacter preceding character following) :
    character = separator := by
  rcases eq_or_mem_of_mem_lowerCharacter member with same | letter
  · exact eq_of_lowerLetter_eq isSeparator same.symm
  · rcases isSeparator with rfl | rfl <;> exact absurd letter (by decide)

/-- Lower case does to the character what the fold does. -/
def FoldsAlike (character : Char) : Prop :=
  lower [character] = [character.toLower]

instance (character : Char) : Decidable (FoldsAlike character) :=
  inferInstanceAs (Decidable (lower [character] = [character.toLower]))

example : FoldsAlike 'Q' ∧ FoldsAlike 'é' ∧ ¬ FoldsAlike 'É' ∧ ¬ FoldsAlike 'Σ' := by
  decide +kernel

theorem lower_singleton (character : Char) :
    lower [character] = lowerCharacter [] character [] :=
  List.append_nil _

theorem foldsAlike_toLower_iff (character : Char) :
    FoldsAlike character.toLower ↔ FoldsAlike character := by
  have lowered : lower [character.toLower] = lower [character] := lower_map_toLower [character]
  rw [FoldsAlike, FoldsAlike, lowered, toLower_toLower]

theorem lowerCharacter_eq_of_foldsAlike {character : Char} (alike : FoldsAlike character)
    (preceding following : List Char) :
    lowerCharacter preceding character following = [character.toLower] := by
  have notSigma : character ≠ 'Σ' := by
    rintro rfl
    exact absurd alike (by decide)
  have notDotted : character ≠ '\u0130' := by
    rintro rfl
    exact absurd alike (by decide)
  rw [FoldsAlike, lower_singleton] at alike
  rw [lowerCharacter, if_neg notSigma, if_neg notDotted] at alike ⊢
  exact alike

/-- In any context the first character that lower case gives decides. -/
theorem foldsAlike_of_head {preceding following : List Char} {character : Char}
    (head : (lowerCharacter preceding character following).head? = some character.toLower) :
    FoldsAlike character := by
  have notSigma : character ≠ 'Σ' := by
    rintro rfl
    have same : lowerSigma preceding following = 'Σ' := Option.some.inj head
    have member := lowerSigma_mem_exceptionalLetters preceding following
    rw [same] at member
    exact absurd member (by decide)
  have notDotted : character ≠ '\u0130' := by
    rintro rfl
    have same : some 'i' = some '\u0130' := head
    exact absurd same (by decide)
  rw [FoldsAlike, lower_singleton]
  rw [lowerCharacter, if_neg notSigma, if_neg notDotted] at head ⊢
  exact congrArg ([·]) (Option.some.inj head)

/-! ## A text in its context -/

/-- Lower case of a text that stands between two others. -/
def lowerWithin (preceding following : List Char) : List Char → List Char
  | [] => []
  | character :: rest =>
      lowerCharacter preceding character (rest ++ following) ++
        lowerWithin (character :: preceding) following rest

theorem lowerFrom_append (preceding left right : List Char) :
    lowerFrom preceding (left ++ right) =
      lowerWithin preceding right left ++ lowerFrom (left.reverse ++ preceding) right := by
  induction left generalizing preceding with
  | nil => rfl
  | cons character rest induction =>
      rw [List.cons_append, lowerFrom, induction, lowerWithin, List.append_assoc,
        List.reverse_cons, List.append_assoc, List.singleton_append]

theorem lowerFrom_eq_lowerWithin (preceding text : List Char) :
    lowerFrom preceding text = lowerWithin preceding [] text := by
  have whole := lowerFrom_append preceding text []
  rwa [List.append_nil, lowerFrom, List.append_nil] at whole

theorem lowerWithin_ne_nil {text : List Char} (nonempty : text ≠ [])
    (preceding following : List Char) : lowerWithin preceding following text ≠ [] := by
  cases text with
  | nil => exact absurd rfl nonempty
  | cons character rest =>
      rw [lowerWithin]
      exact List.append_ne_nil_of_left_ne_nil (lowerCharacter_ne_nil _ _ _) _

theorem exists_of_mem_lowerWithin {preceding following text : List Char} {lowered : Char}
    (member : lowered ∈ lowerWithin preceding following text) :
    ∃ before character after, character ∈ text ∧
      lowered ∈ lowerCharacter before character after := by
  induction text generalizing preceding with
  | nil => cases member
  | cons character rest induction =>
      rcases List.mem_append.mp member with here | later
      · exact ⟨_, character, _, List.mem_cons_self, here⟩
      · rcases induction later with ⟨before, original, after, originalMember, lowers⟩
        exact ⟨before, original, after, List.mem_cons_of_mem character originalMember, lowers⟩

theorem map_toLower_lowerWithin (preceding following text : List Char) :
    (lowerWithin preceding following text).map Char.toLower =
      lowerWithin preceding following text := by
  refine (List.map_congr_left ?_).trans (List.map_id _)
  intro lowered member
  rcases exists_of_mem_lowerWithin member with ⟨before, character, after, -, lowers⟩
  exact toLower_of_mem_lowerCharacter lowers

theorem not_mem_lowerWithin {separator : Char} (isSeparator : separator = '.' ∨ separator = '/')
    {text : List Char} (absent : separator ∉ text) (preceding following : List Char) :
    separator ∉ lowerWithin preceding following text := by
  intro member
  rcases exists_of_mem_lowerWithin member with ⟨before, character, after, original, lowers⟩
  exact absent (eq_of_mem_lowerCharacter isSeparator lowers ▸ original)

theorem lowerWithin_eq_map_toLower_iff (preceding following text : List Char) :
    lowerWithin preceding following text = text.map Char.toLower ↔
      ∀ character ∈ text, FoldsAlike character := by
  induction text generalizing preceding with
  | nil => simp [lowerWithin]
  | cons character rest induction =>
      rw [lowerWithin, List.map_cons, List.forall_mem_cons]
      constructor
      · intro same
        have head : (lowerCharacter preceding character (rest ++ following)).head? =
            some character.toLower := by
          have heads := congrArg List.head? same
          rwa [List.head?_append_of_ne_nil _ (lowerCharacter_ne_nil _ _ _),
            List.head?_cons] at heads
        have alike := foldsAlike_of_head head
        rw [lowerCharacter_eq_of_foldsAlike alike, List.singleton_append,
          List.cons.injEq] at same
        exact ⟨alike, (induction _).mp same.2⟩
      · rintro ⟨alike, later⟩
        rw [lowerCharacter_eq_of_foldsAlike alike, (induction _).mpr later,
          List.singleton_append]

end RoleCatalog.Text
