import RamlClient.Client.Profile
import RamlClient.Command.Arguments
import RamlClient.Proofs.Steps
/-!
# What accepted arguments hold

Arguments that are accepted have a valid name for the package and a command with words. Their
settings are therefore never a defect.
-/

namespace RamlClient.Command

open Client

/-- A text is a command with words. -/
def HasWords (command : String) : Prop := ∃ tool args, Text.shellWords command = .ok (tool :: args)

/-- What has been read passes the checks for the package and the command. -/
structure Given.Checked (g : Given) : Prop where
  /-- The package has a valid name. -/
  packageName : isPackageName g.packageName = true
  /-- The command has words. -/
  formatter : HasWords g.formatter

/-- The default name can be that of a package. -/
theorem isPackageName_default : isPackageName defaultPackageName = true := by decide +kernel

/-- The default command has words. -/
theorem hasWords_default : HasWords defaultFormatter := by
  have h : Text.shellWords defaultFormatter = .ok ["gofmt", "-w"] := by rfl
  exact ⟨"gofmt", ["-w"], h⟩

/-- A name that is read can be that of a package. -/
theorem isPackageName_of_readPackageName {s name : String} (h : readPackageName s = .ok name) :
    isPackageName name = true := by
  rw [readPackageName] at h
  split at h
  · cases h
    assumption
  · cases h

/-- A command that is read has words. -/
theorem hasWords_of_readFormatter {s command : String} (h : readFormatter s = .ok command) :
    HasWords command := by
  rw [readFormatter] at h
  split at h
  · cases h
  · cases h
  · rename_i words hne hwords
    cases h
    cases words with
    | nil => exact (hne rfl).elim
    | cons tool args => exact ⟨tool, args, hwords⟩

/-- A value that is read has what its check asks for, and so has the default. -/
theorem getD_of_mapM_eq_ok {α : Type} {P : α → Prop} {f : String → Except UsageError α}
    {value : Option String} {read : Option α} {default : α} (hf : ∀ s a, f s = .ok a → P a)
    (hdefault : P default) (h : value.mapM f = .ok read) : P (read.getD default) := by
  cases value with
  | none =>
    cases h
    exact hdefault
  | some s =>
    cases hs : f s with
    | error e =>
      rw [Option.mapM_some, hs] at h
      cases h
    | ok a =>
      rw [Option.mapM_some, hs] at h
      cases h
      exact hf s a hs

namespace Given.Checked

variable {g g' : Given}

/-- Nothing that has been read passes the checks. -/
theorem none : Given.none.Checked := ⟨isPackageName_default, hasWords_default⟩

/-- Taking an option keeps the checks. -/
theorem takeFlag (hg : g.Checked) {flag : Flag} {value : Option String}
    (h : takeFlag g flag value = .ok g') : g'.Checked := by
  cases flag with
  | packageName =>
    simp only [Command.takeFlag] at h
    split at h
    · rename_i name hname
      cases h
      exact ⟨getD_of_mapM_eq_ok (fun _ _ => isPackageName_of_readPackageName) isPackageName_default
        hname, hg.formatter⟩
    · cases h
  | formatter =>
    simp only [Command.takeFlag] at h
    split at h
    · rename_i command hcommand
      cases h
      exact ⟨hg.packageName,
        getD_of_mapM_eq_ok (fun _ _ => hasWords_of_readFormatter) hasWords_default hcommand⟩
    · cases h
  | prefixDepth =>
    simp only [Command.takeFlag] at h
    split at h
    · cases h
      exact ⟨hg.packageName, hg.formatter⟩
    · cases h
  | verbose | quiet =>
    simp only [Command.takeFlag] at h
    split at h
    · cases h
    · cases h
      exact ⟨hg.packageName, hg.formatter⟩
  | target | output =>
    cases h
    exact ⟨hg.packageName, hg.formatter⟩
  | help => cases h

/-- Flags keep what has been read checked. -/
theorem takeFlags (hg : g.Checked) {flags : List (Flag × Option String)}
    (h : takeFlags g flags = .ok g') : g'.Checked := by
  induction flags generalizing g with
  | nil =>
    cases h
    exact hg
  | cons f flags ih =>
    rw [Command.takeFlags, List.foldlM_cons] at h
    cases hf : Command.takeFlag g f.1 f.2 with
    | error e =>
      rw [hf] at h
      cases h
    | ok g₁ =>
      rw [hf] at h
      exact ih (hg.takeFlag hf) h

/-- Arguments behind flags are read after the flags. -/
theorem exists_takeFlags_eq_ok {flags : List (Flag × Option String)}
    {r : List (String × ArgumentKind)}
    (h : (do Command.readArguments (← Command.takeFlags g flags) r) = .ok g') :
    ∃ g₁, Command.takeFlags g flags = .ok g₁ ∧ Command.readArguments g₁ r = .ok g' := by
  cases hflags : Command.takeFlags g flags with
  | error e =>
    rw [hflags] at h
    cases h
  | ok g₁ =>
    rw [hflags] at h
    exact ⟨g₁, rfl, h⟩

/-- Reading arguments keeps the checks: what they give without a check is the document and arguments
without a meaning. -/
theorem readArguments (hg : g.Checked) {kinds : List (String × ArgumentKind)}
    (h : readArguments g kinds = .ok g') : g'.Checked := by
  fun_induction Command.readArguments g kinds
  case case1 =>
    cases h
    exact hg
  case case2 => cases h
  case case3 ih =>
    obtain ⟨g₁, hflags, hrest⟩ := exists_takeFlags_eq_ok h
    exact ih g₁ (hg.takeFlags hflags) hrest
  case case4 ih =>
    obtain ⟨g₁, hflags, hrest⟩ := exists_takeFlags_eq_ok h
    exact ih g₁ (hg.takeFlags hflags) hrest
  case case5 => cases h
  all_goals
    rename_i ih
    exact ih ⟨hg.packageName, hg.formatter⟩ h

end Given.Checked

/-- Arguments that are accepted have a name for a package and a command with words. -/
theorem checked_of_parse {args : List String} {a : Arguments} (h : Arguments.parse args = .ok a) :
    isPackageName a.packageName = true ∧ HasWords a.formatter := by
  rw [Arguments.parse] at h
  cases hkinds : argumentKinds args with
  | error e =>
    rw [hkinds] at h
    cases h
  | ok kinds =>
    rw [hkinds] at h
    change (readArguments Given.none kinds >>= fun g => (complete g).mapError .usage) = .ok a at h
    cases hread : readArguments Given.none kinds with
    | error e =>
      rw [hread] at h
      cases h
    | ok g =>
      rw [hread] at h
      obtain ⟨hpackage, hformatter⟩ := Given.Checked.none.readArguments hread
      have hcomplete : complete g = .ok a := Steps.mapError_eq_ok.1 h
      rw [complete] at hcomplete
      split at hcomplete
      · split at hcomplete
        · cases hcomplete
          exact ⟨hpackage, hformatter⟩
        · cases hcomplete
      · cases hcomplete

/-! ### Settings -/

/-- A package name has no backslash: it has word characters, and maybe one line end after them,
which does not count. -/
theorem notMem_of_isPackageName {name : String} (h : isPackageName name = true) :
    '\\' ∉ name.toList := by
  rw [isPackageName] at h
  split at h
  · cases h
  · rename_i c r hcs
    simp only [Bool.and_eq_true, List.all_eq_true] at h
    have hword : '\\' ∉ c :: r := by
      intro hmem
      rcases List.mem_cons.1 hmem with rfl | hr
      · exact absurd h.1 (by decide)
      · exact absurd (h.2 _ hr) (by decide)
    split at hcs
    · rename_i hlast
      obtain ⟨cs, hname⟩ := List.getLast?_eq_some_iff.1 hlast
      rw [hname, List.dropLast_concat] at hcs
      rw [hname, hcs, List.mem_append, not_or]
      exact ⟨hword, by decide⟩
    · rwa [hcs]

/-- The settings of accepted arguments. -/
theorem ofOptions_of_parse {args : List String} {a : Arguments} (h : Arguments.parse args = .ok a) :
    ∃ tool words, Text.shellWords a.formatter = .ok (tool :: words) ∧
      Profile.ofOptions (some a.packageName) a.prefixDepth (some a.formatter) =
        .ok ⟨a.packageName, a.prefixDepth <|> Profile.default.prefixDepth, tool :: words⟩ := by
  obtain ⟨hpackage, tool, words, hwords⟩ := checked_of_parse h
  have hname : a.packageName ≠ "" := by
    intro hempty
    rw [hempty] at hpackage
    revert hpackage
    decide +kernel
  have hformatter : a.formatter ≠ "" := by
    intro hempty
    rw [hempty] at hwords
    revert hwords
    exact nofun
  have hpackage' : (some a.packageName).filter (· ≠ "") = some a.packageName := by
    simp [Option.filter, hname]
  have hformatter' : (some a.formatter).filter (· ≠ "") = some a.formatter := by
    simp [Option.filter, hformatter]
  refine ⟨tool, words, hwords, ?_⟩
  rw [Profile.ofOptions, hpackage', hformatter']
  simp only [hwords]
  rfl

end RamlClient.Command
