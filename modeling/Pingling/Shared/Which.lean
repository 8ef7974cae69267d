import Pingling.Lib.OsString

/-!
# Finding a program on the search path

Two functions search the path for a program: one when cores are discovered, one when a core
is launched. They split the path, look at the candidates and give the result each in its own
way, and they differ where a directory has the name of the program.
-/

namespace Pingling.Shared
open Lib

inductive FileKind where
  | file
  | directory
  deriving DecidableEq

/-- What is at a path, if anything is. -/
abbrev FileSystem := OsString → Option FileKind

def FileSystem.exists (fs : FileSystem) (path : OsString) : Bool :=
  (fs path).isSome

def FileSystem.isFile (fs : FileSystem) (path : OsString) : Bool :=
  fs path == some .file

/-- A decoder that puts something in the place of what is not text. -/
structure LossyDecoder where
  decode : OsString → String
  exact : ∀ s, decode (.ofString s) = s

/-- A path below a directory. An absolute one stands for itself. -/
def join (dir path : OsString) : OsString :=
  if path.head? = some 47 then path
  else if dir = [] ∨ dir.getLast? = some 47 then dir ++ path
  else dir ++ 47 :: path

namespace Util

def whichIn (fs : FileSystem) (name : String) : List String → Option String
  | [] => none
  | dir :: dirs =>
    let candidate := join (.ofString dir) (.ofString name)
    if fs.exists candidate then candidate.toStr else whichIn fs name dirs

/-- `path` is the value of the variable, if it is set. -/
def which (fs : FileSystem) (path : Option OsString) (name : String) : Option String := do
  let pathVar ← path.bind OsString.toStr
  whichIn fs name (Text.split ':' pathVar)

end Util

namespace Paths

def splitPaths (path : OsString) : List OsString :=
  path.splitOn 58

def which (lossy : LossyDecoder) (fs : FileSystem) (path : Option OsString)
    (program : String) : Option String := do
  let pathVar ← path
  (splitPaths pathVar).findSome? (fun dir =>
    let candidate := join dir (.ofString program)
    if fs.isFile candidate then some (lossy.decode candidate) else none)

end Paths

/-- The paths at which a program is looked for, in order. -/
def candidates (path : OsString) (program : String) : List OsString :=
  (Paths.splitPaths path).map (join · (.ofString program))

/-- The first candidate that there is, is no directory. -/
def NoDirectoryFirst (fs : FileSystem) (path : OsString) (program : String) : Prop :=
  ∀ candidate, (candidates path program).find? fs.exists = some candidate →
    fs candidate ≠ some .directory

/-- Below a text a text has a text for its path. -/
lemma join_ofString (dir name : String) :
    ∃ s, join (.ofString dir) (.ofString name) = .ofString s := by
  unfold join
  split_ifs
  · exact ⟨name, rfl⟩
  · exact ⟨dir ++ name, (OsString.ofString_append dir name).symm⟩
  · refine ⟨dir ++ ("/" ++ name), ?_⟩
    rw [OsString.ofString_append, OsString.ofString_append]
    rfl

lemma splitPaths_ofString (path : String) :
    Paths.splitPaths (.ofString path) = (Text.split ':' path).map OsString.ofString :=
  OsString.splitOn_ofString (by decide) rfl path

lemma mem_candidates {path program : String} {candidate : OsString}
    (h : candidate ∈ candidates (.ofString path) program) : ∃ s, candidate = .ofString s := by
  rw [candidates, splitPaths_ofString, List.map_map] at h
  obtain ⟨dir, -, rfl⟩ := List.mem_map.mp h
  exact join_ofString dir program

/-- Discovery takes the first candidate that there is. -/
lemma util_which_eq (fs : FileSystem) (path program : String) :
    Util.which fs (some (.ofString path)) program =
      ((candidates (.ofString path) program).find? fs.exists).bind OsString.toStr := by
  have hwalk : ∀ dirs, Util.whichIn fs program dirs =
      ((dirs.map (fun dir => join (.ofString dir) (.ofString program))).find?
        fs.exists).bind OsString.toStr := by
    intro dirs
    induction dirs with
    | nil => rfl
    | cons dir dirs ih =>
      rw [Util.whichIn, List.map_cons, List.find?_cons]
      cases hfound : fs.exists (join (.ofString dir) (.ofString program)) with
      | true => rfl
      | false => simpa [hfound] using ih
  rw [candidates, splitPaths_ofString, List.map_map]
  simp only [Util.which, Option.bind_some, OsString.toStr_ofString, Option.bind_eq_bind, hwalk]
  rfl

/-- A launch takes the first candidate that is a file. -/
lemma paths_which_eq (lossy : LossyDecoder) (fs : FileSystem) (path : OsString)
    (program : String) :
    Paths.which lossy fs (some path) program =
      ((candidates path program).find? fs.isFile).map lossy.decode := by
  have hwalk : ∀ dirs : List OsString, (dirs.findSome? fun dir =>
      if fs.isFile (join dir (.ofString program)) then
        some (lossy.decode (join dir (.ofString program))) else none) =
      ((dirs.map (join · (.ofString program))).find? fs.isFile).map lossy.decode := by
    intro dirs
    induction dirs with
    | nil => rfl
    | cons dir dirs ih =>
      rw [List.findSome?_cons, List.map_cons, List.find?_cons]
      cases hfound : fs.isFile (join dir (.ofString program)) with
      | true => rfl
      | false => simpa [hfound] using ih
  exact hwalk (Paths.splitPaths path)

/-- A file that is the first candidate there is, is the first file. -/
lemma find?_isFile {fs : FileSystem} {cs : List OsString} :
    (cs.find? fs.exists = none → cs.find? fs.isFile = none) ∧
      ∀ c, cs.find? fs.exists = some c → fs c = some .file → cs.find? fs.isFile = some c := by
  induction cs with
  | nil => exact ⟨fun _ => rfl, fun c hc => by simp at hc⟩
  | cons first cs ih =>
    rw [List.find?_cons, List.find?_cons]
    cases hkind : fs first with
    | none => simpa [FileSystem.exists, FileSystem.isFile, hkind] using ih
    | some kind =>
      have hexists : fs.exists first = true := by rw [FileSystem.exists, hkind]; rfl
      rw [hexists]
      refine ⟨by simp, ?_⟩
      rintro c hc hfile
      rw [Option.some.injEq] at hc
      subst hc
      simp [FileSystem.isFile, hfile]

/-- The two searches of a path agree exactly when the first candidate that there is, if any, is
no directory. -/
theorem which_agree (lossy : LossyDecoder) (fs : FileSystem) (path program : String) :
    Util.which fs (some (.ofString path)) program =
        Paths.which lossy fs (some (.ofString path)) program ↔
      NoDirectoryFirst fs (.ofString path) program := by
  rw [util_which_eq, paths_which_eq, NoDirectoryFirst]
  cases hfound : (candidates (.ofString path) program).find? fs.exists with
  | none => simp [find?_isFile.1 hfound]
  | some c =>
    obtain ⟨s, rfl⟩ := mem_candidates (List.mem_of_find?_eq_some hfound)
    have hexists := List.find?_some hfound
    have hfirst : (∀ candidate, some (OsString.ofString s) = some candidate →
        fs candidate ≠ some .directory) ↔ fs (.ofString s) ≠ some .directory := by simp
    rw [hfirst, Option.bind_some, OsString.toStr_ofString]
    cases hkind : fs (.ofString s) with
    | none => simp [FileSystem.exists, hkind] at hexists
    | some kind =>
      cases kind with
      | file => simp [find?_isFile.2 _ hfound hkind, lossy.exact]
      | directory =>
        simp only [ne_eq, not_true_eq_false, iff_false]
        intro heq
        obtain ⟨c, hfile, hdecoded⟩ := Option.map_eq_some_iff.mp heq.symm
        obtain ⟨t, rfl⟩ := mem_candidates (List.mem_of_find?_eq_some hfile)
        rw [lossy.exact] at hdecoded
        subst hdecoded
        have hisFile := List.find?_some hfile
        simp [FileSystem.isFile, hkind] at hisFile

/-- A decoder that puts one mark in the place of a string that is not text. -/
def marking : LossyDecoder where
  decode o := o.toStr.getD "\uFFFD"
  exact s := by rw [OsString.toStr_ofString, Option.getD_some]

/-- A system on which `/opt/xray` is a directory and `/usr/bin/xray` the program. -/
def twoPlaces : FileSystem :=
  fun path =>
    if path = .ofString "/opt/xray" then some .directory
    else if path = .ofString "/usr/bin/xray" then some .file
    else none

/-- Discovery finds the directory, and a launch the program. -/
theorem directory_found_first :
    Util.which twoPlaces (some (.ofString "/opt:/usr/bin")) "xray" = some "/opt/xray" ∧
      Paths.which marking twoPlaces (some (.ofString "/opt:/usr/bin")) "xray" =
        some "/usr/bin/xray" := by
  have hcandidates : candidates (.ofString "/opt:/usr/bin") "xray" =
      [.ofString "/opt/xray", .ofString "/usr/bin/xray"] := by
    rw [candidates, splitPaths_ofString]
    decide
  have hfirst : twoPlaces (.ofString "/opt/xray") = some .directory := if_pos rfl
  have hsecond : twoPlaces (.ofString "/usr/bin/xray") = some .file := by
    decide
  constructor
  · rw [util_which_eq, hcandidates, List.find?_cons]
    simp [FileSystem.exists, hfirst]
  · have hdirectory : twoPlaces.isFile (.ofString "/opt/xray") = false := by
      rw [FileSystem.isFile, hfirst]
      rfl
    have hfile : twoPlaces.isFile (.ofString "/usr/bin/xray") = true := by
      rw [FileSystem.isFile, hsecond]
      rfl
    rw [paths_which_eq, hcandidates, List.find?_cons, List.find?_cons, hdirectory, hfile]
    exact congrArg some (marking.exact _)

end Pingling.Shared
