import Pingling.Ipc.Discovery
import Pingling.Lib.Decimal

/-!
# The registry of daemons

Every daemon writes its advertisement to a file of its own in the registry directory, under its
process id, and a copy of it to `latest.json`. On the way it removes the files of processes that
are gone. What the operating system does is a parameter: how it answers a signal to a process, and
which of its calls fail.
-/

namespace Pingling.Ipc.Discovery
open Lib

def jsonSuffix : String := ".json"

def latestFile : OsString := OsString.ofString "latest.json"

/-- The name of the file of a process. -/
def registryFile (pid : UInt32) : OsString :=
  OsString.ofString (String.ofList (Decimal.write pid.toNat) ++ jsonSuffix)

/-- `trim_end_matches`: the suffix goes as often as it stands at the end. -/
def trimEndMatches (suffix : String) : ℕ → String → String
  | 0, value => value
  | fuel + 1, value =>
    match Text.stripSuffix suffix value with
    | some front => trimEndMatches suffix fuel front
    | none => value

/-- The process whose file this is, if the name is one that pruning looks at. -/
def entryPid (name : OsString) : Option ℤ :=
  (OsString.toStr name).bind fun fileName =>
    if !Text.endsWith jsonSuffix fileName || fileName == "latest.json" then none
    else Decimal.parseInt (-2 ^ 31) (2 ^ 31 - 1)
      (trimEndMatches jsonSuffix fileName.length fileName).toList

/-- How the operating system answers signal 0. -/
inductive KillResult where
  | delivered
  | errno (code : ℕ)
  deriving DecidableEq

/-- No such process. -/
def esrch : ℕ := 3

def pidAlive (answer : KillResult) : Bool :=
  match answer with
  | .delivered => true
  | .errno code => code != esrch

/-- The contents of the files in the registry directory. -/
abbrev Files := OsString → Option (List UInt8)

def Files.remove (files : Files) (name : OsString) : Files :=
  Function.update files name none

def Files.put (files : Files) (name : OsString) (content : List UInt8) : Files :=
  Function.update files name (some content)

/-- How a write of a whole file ends: it may fail to open the file, or after some bytes. -/
inductive WriteOutcome where
  | done
  | notOpened
  | cut (written : ℕ)
  deriving DecidableEq

/-- `fs::write`, and whether it succeeds. -/
def Files.write (files : Files) (name : OsString) (content : List UInt8) :
    WriteOutcome → Files × Bool
  | .done => (files.put name content, true)
  | .notOpened => (files, false)
  | .cut written => (files.put name (content.take written), false)

/-- What the operating system does during a call. -/
structure Os where
  kill : ℤ → KillResult
  /-- The names that reading the directory gives, if it can be read. -/
  listing : Option (List OsString)
  removes : OsString → Bool
  writes : OsString → WriteOutcome

variable (os : Os)

/-- One turn of the loop over the directory. -/
def pruneEntry (files : Files) (name : OsString) : Files :=
  match entryPid name with
  | none => files
  | some pid =>
    if pidAlive (os.kill pid) then files
    else if os.removes name then files.remove name else files

def pruneStaleEntries (files : Files) : Files :=
  match os.listing with
  | none => files
  | some names => names.foldl (pruneEntry os) files

/-- Publishing an advertisement: the files after it, and the name of the daemon's own file if that
was written. -/
def publishRegistry (pid : UInt32) (ad : DaemonAdvertisement) (files : Files) :
    Files × Option OsString :=
  let files := pruneStaleEntries os files
  let path := registryFile pid
  let (files, written) := files.write path ad.toJsonBytes (os.writes path)
  if written then
    ((files.write latestFile ad.toJsonBytes (os.writes latestFile)).1, some path)
  else (files, none)

def cleanupRegistry (pid : UInt32) (files : Files) : Files :=
  let path := registryFile pid
  if os.removes path then files.remove path else files

lemma toList_ofList_write (n : ℕ) : (String.ofList (Decimal.write n)).toList = Decimal.write n :=
  String.toList_ofList

/-- Digits do not end with the suffix. -/
lemma endsWith_write (n : ℕ) :
    Text.endsWith jsonSuffix (String.ofList (Decimal.write n)) = false := by
  rw [Bool.eq_false_iff]
  intro h
  obtain ⟨front, hfront⟩ := Text.endsWith_iff.mp h
  have hchars := congrArg String.toList hfront
  rw [toList_ofList_write, String.toList_append] at hchars
  have hdot : '.' ∈ Decimal.write n := by
    rw [hchars]
    exact List.mem_append_right _ (by decide)
  exact absurd (Decimal.isDigit_of_mem_write hdot) (by decide)

lemma trimEndMatches_write (n fuel : ℕ) :
    trimEndMatches jsonSuffix (fuel + 1) (String.ofList (Decimal.write n) ++ jsonSuffix) =
      String.ofList (Decimal.write n) := by
  rw [trimEndMatches, Text.stripSuffix_append]
  cases fuel with
  | zero => rfl
  | succ fuel => simp only [trimEndMatches, Text.stripSuffix_eq_none.mpr (endsWith_write n)]

lemma write_ne_latest (n : ℕ) : String.ofList (Decimal.write n) ++ jsonSuffix ≠ "latest.json" := by
  intro h
  have hchars := congrArg String.toList h
  rw [String.toList_append, toList_ofList_write] at hchars
  cases hwrite : Decimal.write n with
  | nil => exact Decimal.write_ne_nil n hwrite
  | cons c digits =>
    have hdigit : c.isDigit = true := Decimal.isDigit_of_mem_write (hwrite ▸ List.mem_cons_self)
    rw [hwrite] at hchars
    have hc : c = 'l' := (List.cons.inj hchars).1
    rw [hc] at hdigit
    exact absurd hdigit (by decide)

lemma registryFile_ne_latest (pid : UInt32) : registryFile pid ≠ latestFile :=
  fun h => write_ne_latest _ (OsString.ofString_injective h)

lemma registryFile_injective : Function.Injective registryFile := by
  intro pid pid' h
  have hnames := Text.stripSuffix_append (String.ofList (Decimal.write pid.toNat)) jsonSuffix
  rw [OsString.ofString_injective h, Text.stripSuffix_append, Option.some.injEq] at hnames
  have hwrites := congrArg String.toList hnames
  rw [toList_ofList_write, toList_ofList_write] at hwrites
  exact UInt32.toNat_inj.mp (Decimal.write_injective hwrites).symm

/-- The file of a process has its id, unless that is too large for a signed one. -/
lemma entryPid_registryFile (pid : UInt32) :
    entryPid (registryFile pid) =
      if (pid.toNat : ℤ) ≤ 2 ^ 31 - 1 then some (pid.toNat : ℤ) else none := by
  have hends : Text.endsWith jsonSuffix
      (String.ofList (Decimal.write pid.toNat) ++ jsonSuffix) = true :=
    Text.endsWith_iff.mpr ⟨_, rfl⟩
  have hlatest : (String.ofList (Decimal.write pid.toNat) ++ jsonSuffix == "latest.json") = false :=
    beq_eq_false_iff_ne.mpr (write_ne_latest _)
  obtain ⟨fuel, hfuel⟩ : ∃ fuel,
      (String.ofList (Decimal.write pid.toNat) ++ jsonSuffix).length = fuel + 1 := by
    refine ⟨(Decimal.write pid.toNat).length + 4, ?_⟩
    rw [String.length_append, String.length_ofList]
    rfl
  rw [entryPid, registryFile, OsString.toStr_ofString, Option.bind_some, hends, hlatest, hfuel,
    trimEndMatches_write, toList_ofList_write, if_neg (by decide)]
  exact Decimal.parseInt_write (by omega)

lemma entryPid_latestFile : entryPid latestFile = none := by
  rw [entryPid, latestFile, OsString.toStr_ofString, Option.bind_some, if_pos]
  decide

/-- The file is one of a process that is gone. -/
def stale (name : OsString) : Bool :=
  match entryPid name with
  | some pid => !pidAlive (os.kill pid)
  | none => false

/-- Pruning finds the file, takes it for stale and is able to remove it. -/
def swept (name : OsString) : Bool :=
  (os.listing.getD []).contains name && stale os name && os.removes name

lemma stale_latestFile : stale os latestFile = false := by
  rw [stale, entryPid_latestFile]

lemma pruneEntry_eq (files : Files) (name : OsString) :
    pruneEntry os files name =
      if stale os name && os.removes name then files.remove name else files := by
  unfold pruneEntry stale
  cases entryPid name with
  | none => rfl
  | some pid =>
    change (if pidAlive (os.kill pid) then files
      else if os.removes name then files.remove name else files) =
        if !pidAlive (os.kill pid) && os.removes name then files.remove name else files
    cases pidAlive (os.kill pid) <;> rfl

lemma foldl_pruneEntry (names : List OsString) (files : Files) (name : OsString) :
    names.foldl (pruneEntry os) files name =
      if names.contains name && stale os name && os.removes name then none else files name := by
  induction names generalizing files with
  | nil => rfl
  | cons entry names ih =>
    have hentry : pruneEntry os files entry name =
        if name == entry && stale os name && os.removes name then none else files name := by
      rw [pruneEntry_eq]
      by_cases hname : name = entry
      · subst hname
        rw [beq_self_eq_true, Bool.true_and]
        split_ifs
        · exact Function.update_self _ _ _
        · rfl
      · rw [beq_eq_false_iff_ne.mpr hname, Bool.false_and, Bool.false_and,
          if_neg Bool.false_ne_true]
        split_ifs
        · exact Function.update_of_ne hname _ _
        · rfl
    rw [List.foldl_cons, ih, hentry, List.contains_cons]
    cases name == entry <;> cases names.contains name <;> cases stale os name <;>
      cases os.removes name <;> rfl

lemma pruneStaleEntries_apply (files : Files) (name : OsString) :
    pruneStaleEntries os files name = if swept os name then none else files name := by
  unfold pruneStaleEntries swept
  cases os.listing with
  | none => simp
  | some names => exact foldl_pruneEntry os names files name

lemma Files.write_done (files : Files) (name : OsString) (content : List UInt8) :
    (files.write name content .done).1 name = some content := by
  have hself := Function.update_self name (some content) files
  exact hself

lemma Files.write_of_ne {files : Files} {name other : OsString} (h : other ≠ name)
    (content : List UInt8) (outcome : WriteOutcome) :
    (files.write name content outcome).1 other = files other := by
  cases outcome with
  | done => exact Function.update_of_ne h _ _
  | notOpened => rfl
  | cut written => exact Function.update_of_ne h _ _

lemma Files.write_isSome {files : Files} {name : OsString} (content : List UInt8)
    (outcome : WriteOutcome) (other : OsString) (h : (files other).isSome) :
    ((files.write name content outcome).1 other).isSome := by
  cases outcome with
  | done =>
    by_cases hname : other = name
    · have hself := Function.update_self name (some content) files
      rw [hname]
      exact Option.isSome_of_eq_some hself
    · rwa [write_of_ne hname]
  | notOpened => exact h
  | cut written =>
    by_cases hname : other = name
    · have hself := Function.update_self name (some (content.take written)) files
      rw [hname]
      exact Option.isSome_of_eq_some hself
    · rwa [write_of_ne hname]

/-- A daemon that publishes its advertisement removes the files that it takes for stale, and no
others. It succeeds if and only if it writes its own file, which then has its advertisement, and
so has `latest.json` if that can be written. That file does not disappear. -/
theorem publishRegistry_files (pid : UInt32) (ad : DaemonAdvertisement) (files : Files) :
    let published := publishRegistry os pid ad files
    (∀ name, name ≠ registryFile pid → name ≠ latestFile →
      published.1 name = if swept os name then none else files name) ∧
    (published.2 = some (registryFile pid) ↔ os.writes (registryFile pid) = .done) ∧
    (published.2 = some (registryFile pid) →
      published.1 (registryFile pid) = some ad.toJsonBytes ∧
        (os.writes latestFile = .done → published.1 latestFile = some ad.toJsonBytes)) ∧
    ((files latestFile).isSome → (published.1 latestFile).isSome) := by
  intro published
  have hlatest : (files latestFile).isSome → (pruneStaleEntries os files latestFile).isSome := by
    rw [pruneStaleEntries_apply, swept, stale_latestFile, Bool.and_false, Bool.false_and,
      if_neg Bool.false_ne_true]
    exact id
  have hown := registryFile_ne_latest pid
  let afterOwn := (pruneStaleEntries os files).write (registryFile pid) ad.toJsonBytes
    (os.writes (registryFile pid))
  have hpublished : published =
      if afterOwn.2 then
        ((afterOwn.1.write latestFile ad.toJsonBytes (os.writes latestFile)).1,
          some (registryFile pid))
      else (afterOwn.1, none) := rfl
  have hwritten : afterOwn.2 = true ↔ os.writes (registryFile pid) = .done := by
    cases h : os.writes (registryFile pid) <;> simp [afterOwn, Files.write, h]
  have hother : ∀ name, name ≠ registryFile pid →
      afterOwn.1 name = if swept os name then none else files name := by
    intro name hname
    rw [← pruneStaleEntries_apply]
    exact Files.write_of_ne hname _ _
  have hkept : (files latestFile).isSome → (afterOwn.1 latestFile).isSome :=
    fun h => Files.write_isSome _ _ _ (hlatest h)
  by_cases hdone : afterOwn.2 = true
  · have hself : afterOwn.1 (registryFile pid) = some ad.toJsonBytes := by
      have hwrite : afterOwn = (pruneStaleEntries os files).write (registryFile pid)
          ad.toJsonBytes .done := by rw [← hwritten.mp hdone]
      rw [hwrite, Files.write_done]
    rw [hpublished, if_pos hdone]
    refine ⟨fun name hname hlast => ?_, iff_of_true rfl (hwritten.mp hdone), fun _ => ⟨?_, ?_⟩, ?_⟩
    · rw [Files.write_of_ne hlast, hother name hname]
    · rw [Files.write_of_ne hown, hself]
    · intro h
      rw [h, Files.write_done]
    · exact fun h => Files.write_isSome _ _ _ (hkept h)
  · rw [hpublished, if_neg hdone]
    exact ⟨fun name hname _ => hother name hname,
      iff_of_false (by simp) (fun h => hdone (hwritten.mpr h)), by simp, hkept⟩

end Pingling.Ipc.Discovery
