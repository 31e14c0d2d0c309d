import Mathlib.Logic.Basic

/-!
# The environment's project and name

`run` splits the `--env` flag at its first `/` with `strings.Cut` and, per the comment above
the parsing, defaults "to the stack's project and name if the environment project and/or name
are not provided". `parseEnvName` is that code. Without a `/` it defaults as the comment says
(`parseEnvName_of_slash_not_mem`); with one it takes both sides as they are, empty or not
(`parseEnvName_of_slash_mem`), so a flag `/` gives an empty project and an empty name.
-/

namespace ConfigEnvInit

/-- `strings.Cut` on the characters of a string, for a one-character separator. -/
def cutChars (sep : Char) : List Char → List Char × List Char × Bool
  | [] => ([], [], false)
  | c :: cs =>
    if c = sep then ([], cs, true)
    else
      let (before, after, found) := cutChars sep cs
      (c :: before, after, found)

/-- `strings.Cut(s, sep)`: the text before and after the first `sep`, and whether there is one. -/
def cut (s : String) (sep : Char) : String × String × Bool :=
  let (before, after, found) := cutChars sep s.data
  (⟨before⟩, ⟨after⟩, found)

theorem cutChars_of_not_mem {sep : Char} :
    ∀ {cs : List Char}, sep ∉ cs → cutChars sep cs = (cs, [], false)
  | [], _ => rfl
  | c :: cs, h => by
    rw [List.mem_cons, not_or] at h
    simp [cutChars, Ne.symm h.1, cutChars_of_not_mem h.2]

theorem cutChars_append {sep : Char} :
    ∀ {before : List Char} (after : List Char), sep ∉ before →
      cutChars sep (before ++ sep :: after) = (before, after, true)
  | [], _, _ => by simp [cutChars]
  | c :: cs, after, h => by
    rw [List.mem_cons, not_or] at h
    simp [cutChars, Ne.symm h.1, cutChars_append after h.2]

/-- Every list either has no `sep` or splits at its first one. -/
theorem eq_append_of_mem {sep : Char} :
    ∀ {cs : List Char}, sep ∈ cs → ∃ before after, sep ∉ before ∧ cs = before ++ sep :: after
  | c :: cs, h => by
    by_cases hc : c = sep
    · exact ⟨[], cs, List.not_mem_nil _, by simp [hc]⟩
    · obtain ⟨before, after, hb, rfl⟩ := eq_append_of_mem ((List.mem_cons.mp h).resolve_left
        (Ne.symm hc))
      exact ⟨c :: before, after, by simp [Ne.symm hc, hb], rfl⟩

/-- Lines 134 to 142 of `configEnvInitCmd.run`: the environment's project and name from the
`--env` flag, given the stack's project and stack name. -/
def parseEnvName (projectName stackName envFlag : String) : String × String :=
  let (first, second, found) := cut envFlag '/'
  if found then (first, second)
  else if first ≠ "" then (projectName, first)
  else (projectName, stackName)

theorem parseEnvName_of_slash_not_mem (projectName stackName : String) {envFlag : String}
    (h : '/' ∉ envFlag.data) :
    parseEnvName projectName stackName envFlag =
      (projectName, if envFlag = "" then stackName else envFlag) := by
  by_cases he : envFlag = ""
  · subst he; rfl
  · simp [parseEnvName, cut, cutChars_of_not_mem h, he]

theorem parseEnvName_of_slash_mem (projectName stackName : String) {before after : List Char}
    (h : '/' ∉ before) :
    parseEnvName projectName stackName ⟨before ++ '/' :: after⟩ = (⟨before⟩, ⟨after⟩) := by
  simp [parseEnvName, cut, cutChars_append after h]

/-- The first `/` splits a list in one way only. -/
theorem split_unique {sep : Char} {b a b' a' : List Char} (hb : sep ∉ b) (hb' : sep ∉ b')
    (h : b ++ sep :: a = b' ++ sep :: a') : b = b' ∧ a = a' := by
  have := (cutChars_append a hb).symm.trans (h ▸ cutChars_append a' hb')
  simp only [Prod.mk.injEq] at this
  exact ⟨this.1, this.2.1⟩

theorem string_ne_empty_iff {cs : List Char} : (⟨cs⟩ : String) ≠ "" ↔ cs ≠ [] :=
  not_congr ⟨congrArg String.data, fun h => h ▸ rfl⟩

/-- Given a non-empty project and stack name, the environment's project and name are both
non-empty exactly when each side of the flag's first `/`, if it has one, is non-empty. -/
theorem parseEnvName_ne_empty_iff {projectName stackName envFlag : String}
    (hp : projectName ≠ "") (hs : stackName ≠ "") :
    ((parseEnvName projectName stackName envFlag).1 ≠ "" ∧
        (parseEnvName projectName stackName envFlag).2 ≠ "") ↔
      ∀ before after, '/' ∉ before → envFlag.data = before ++ '/' :: after →
        before ≠ [] ∧ after ≠ [] := by
  by_cases hm : '/' ∈ envFlag.data
  · obtain ⟨before, after, hb, he⟩ := eq_append_of_mem hm
    obtain ⟨cs⟩ := envFlag
    subst he
    rw [parseEnvName_of_slash_mem _ _ hb, string_ne_empty_iff, string_ne_empty_iff]
    refine ⟨fun h b' a' hb' he => ?_, fun h => h _ _ hb rfl⟩
    obtain ⟨rfl, rfl⟩ := split_unique hb hb' he
    exact h
  · rw [parseEnvName_of_slash_not_mem _ _ hm]
    refine iff_of_true ⟨hp, ?_⟩ fun before after _ he => (hm (he ▸ by simp)).elim
    split <;> assumption

theorem parseEnvName_ne_empty_iff_dev :
    "proj" ≠ "" ∧ "dev" ≠ "" ∧
      (((parseEnvName "proj" "dev" "team/").1 ≠ "" ∧ (parseEnvName "proj" "dev" "team/").2 ≠ "") ↔
        ∀ before after, '/' ∉ before → "team/".data = before ++ '/' :: after →
          before ≠ [] ∧ after ≠ []) :=
  ⟨by decide, by decide, parseEnvName_ne_empty_iff (by decide) (by decide)⟩

/-- `envProject/envName` read as `--env` gives back `envProject` and `envName` when `envProject`
has no `/`. -/
theorem parseEnvName_append_slash (projectName stackName : String) {envProject : String}
    (envName : String) (h : '/' ∉ envProject.data) :
    parseEnvName projectName stackName (envProject ++ "/" ++ envName) = (envProject, envName) := by
  have he : envProject ++ "/" ++ envName = ⟨envProject.data ++ '/' :: envName.data⟩ :=
    String.ext (by simp)
  rw [he, parseEnvName_of_slash_mem _ _ h]

/-- The reference `run` writes into the stack, `envProject/envName`, read back the way `--env` is
read, names the environment `run` created exactly when the flag had a `/` or the project's name
has none. -/
theorem parseEnvName_reference (projectName stackName envFlag projectName' stackName' : String) :
    parseEnvName projectName' stackName'
        ((parseEnvName projectName stackName envFlag).1 ++ "/" ++
          (parseEnvName projectName stackName envFlag).2) =
      parseEnvName projectName stackName envFlag ↔
    '/' ∈ envFlag.data ∨ '/' ∉ projectName.data := by
  by_cases hm : '/' ∈ envFlag.data
  · obtain ⟨before, after, hb, he⟩ := eq_append_of_mem hm
    obtain ⟨cs⟩ := envFlag
    subst he
    rw [parseEnvName_of_slash_mem _ _ hb]
    exact iff_of_true (parseEnvName_append_slash _ _ _ hb) (.inl hm)
  rw [parseEnvName_of_slash_not_mem _ _ hm]
  generalize (if envFlag = "" then stackName else envFlag) = envName
  by_cases hp : '/' ∈ projectName.data
  · refine iff_of_false ?_ (by simp [hm, hp])
    obtain ⟨before, after, hb, he⟩ := eq_append_of_mem hp
    have hr : projectName ++ "/" ++ envName = ⟨before ++ '/' :: (after ++ '/' :: envName.data)⟩ :=
      String.ext (by simp [he])
    rw [hr, parseEnvName_of_slash_mem _ _ hb, Prod.mk.injEq]
    rintro ⟨h, -⟩
    exact hb (h ▸ hp : '/' ∈ (⟨before⟩ : String).data)
  · exact iff_of_true (parseEnvName_append_slash _ _ _ hp) (.inr hp)

theorem parseEnvName_reference_team :
    parseEnvName "proj" "dev" ((parseEnvName "team/proj" "dev" "").1 ++ "/" ++
        (parseEnvName "team/proj" "dev" "").2) ≠ parseEnvName "team/proj" "dev" "" ∧
      parseEnvName "team" "dev" ((parseEnvName "team" "dev" "").1 ++ "/" ++
        (parseEnvName "team" "dev" "").2) = parseEnvName "team" "dev" "" :=
  ⟨fun h => by simpa using (parseEnvName_reference "team/proj" "dev" "" "proj" "dev").mp h,
    (parseEnvName_reference "team" "dev" "" "team" "dev").mpr (.inr (by decide))⟩

/-- A flag that is a lone `/` gives an empty project and an empty name, whatever the stack's
project and name. -/
theorem parseEnvName_slash (projectName stackName : String) :
    parseEnvName projectName stackName "/" = ("", "") :=
  rfl

end ConfigEnvInit
