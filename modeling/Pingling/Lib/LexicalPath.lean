import Pingling.Lib.Text

/-!
# Paths and their lexical meaning

A path text is a list of segments between slashes. Its meaning, no file system asked, is a
number of steps up and the names below: a dot and an empty segment stay, and two dots take
the last name away.
-/

namespace Lib

/-- A segment that names something. -/
def IsName (segment : String) : Prop :=
  segment ≠ "" ∧ segment ≠ "." ∧ segment ≠ ".."

instance (segment : String) : Decidable (IsName segment) :=
  inferInstanceAs (Decidable (_ ∧ _))

namespace UnixPath

def segments (path : String) : List String :=
  Text.split '/' path

def hasRoot (path : String) : Bool :=
  path.toList.head? == some '/'

inductive Component where
  | rootDir
  | curDir
  | parentDir
  | normal (name : String)
  deriving DecidableEq

/-- A segment after the first. -/
def Component.ofSegment (segment : String) : Option Component :=
  if segment = "" ∨ segment = "." then none
  else if segment = ".." then some .parentDir
  else some (.normal segment)

/-- The components of a path. A dot is one only at the beginning. -/
def components (path : String) : List Component :=
  let start :=
    if hasRoot path then [.rootDir]
    else if (segments path).head? = some "." then [.curDir]
    else []
  start ++ (segments path).filterMap Component.ofSegment

lemma ofSegment_eq_parentDir {segment : String} :
    Component.ofSegment segment = some .parentDir ↔ segment = ".." := by
  unfold Component.ofSegment
  constructor
  · intro h
    split_ifs at h with hskip hup
    · exact hup
    · cases h
  · rintro rfl
    rfl

lemma ofSegment_ne_rootDir (segment : String) :
    Component.ofSegment segment ≠ some .rootDir := by
  unfold Component.ofSegment
  split_ifs <;> simp

/-- No component leads out exactly when no segment does and the path has no root. -/
theorem forall_components_iff {path : String} :
    (∀ c ∈ components path, c ≠ .rootDir ∧ c ≠ .parentDir) ↔
      hasRoot path = false ∧ ".." ∉ segments path := by
  have hup : .parentDir ∈ components path ↔ ".." ∈ segments path := by
    have hstart : Component.parentDir ∉ (if hasRoot path then [Component.rootDir]
        else if (segments path).head? = some "." then [.curDir] else []) := by
      split_ifs <;> simp
    simp only [components, List.mem_append, hstart, false_or, List.mem_filterMap,
      ofSegment_eq_parentDir, exists_eq_right]
  have hroot : .rootDir ∈ components path ↔ hasRoot path = true := by
    have hrest : Component.rootDir ∉ (segments path).filterMap Component.ofSegment := by
      simp only [List.mem_filterMap, ofSegment_ne_rootDir, and_false, exists_false,
        not_false_eq_true]
    simp only [components, List.mem_append, hrest, or_false]
    split_ifs <;> simp_all
  rw [← hup, ← Bool.not_eq_true, ← hroot]
  constructor
  · intro hall
    exact ⟨fun h => (hall _ h).1 rfl, fun h => (hall _ h).2 rfl⟩
  · rintro ⟨hnoroot, hnoup⟩ c hc
    exact ⟨fun h => hnoroot (h ▸ hc), fun h => hnoup (h ▸ hc)⟩

end UnixPath

/-- Where a path leads. Nothing is above the root. -/
@[ext] structure LexicalPath where
  rooted : Bool
  ups : ℕ
  names : List String
  named : ∀ name ∈ names, IsName name
  top : rooted = true → ups = 0

namespace LexicalPath
open UnixPath

def root : LexicalPath :=
  ⟨true, 0, [], by simp, fun _ => rfl⟩

/-- The place above. -/
def parent (p : LexicalPath) : LexicalPath :=
  match p with
  | ⟨true, ups, names, hnamed, htop⟩ =>
    ⟨true, ups, names.dropLast, fun name h => hnamed name (List.mem_of_mem_dropLast h), htop⟩
  | ⟨false, ups, [], hnamed, _⟩ => ⟨false, ups + 1, [], hnamed, by simp⟩
  | ⟨false, ups, first :: rest, hnamed, _⟩ =>
    ⟨false, ups, (first :: rest).dropLast,
      fun name h => hnamed name (List.mem_of_mem_dropLast h), by simp⟩

def child (p : LexicalPath) (name : String) (h : IsName name) : LexicalPath :=
  { p with
    names := p.names ++ [name]
    named := by
      intro other hmem
      rcases List.mem_append.mp hmem with hmem | hmem
      · exact p.named other hmem
      · exact List.mem_singleton.mp hmem ▸ h }

def step (p : LexicalPath) (segment : String) : LexicalPath :=
  if segment = ".." then p.parent
  else if h : IsName segment then p.child segment h
  else p

/-- Where a path leads from a place. -/
def resolve (base : LexicalPath) (path : String) : LexicalPath :=
  (segments path).foldl step (if hasRoot path then root else base)

/-- The first place is the second with these names below it. -/
structure Below (p base : LexicalPath) (rest : List String) : Prop where
  rooted : p.rooted = base.rooted
  ups : p.ups = base.ups
  names : p.names = base.names ++ rest

/-- Without two dots, the segments that are names lead down and the others nowhere. -/
lemma foldl_step_below (base : LexicalPath) {path : List String} (h : ".." ∉ path) :
    (path.foldl step base).Below base (path.filter (fun segment => IsName segment)) := by
  induction path generalizing base with
  | nil => exact ⟨rfl, rfl, (List.append_nil _).symm⟩
  | cons segment path ih =>
    rw [List.mem_cons, not_or] at h
    have hbelow := ih (base.step segment) h.2
    rw [List.foldl_cons]
    by_cases hname : IsName segment
    · have hstep : base.step segment = base.child segment hname := by
        rw [step, if_neg (Ne.symm h.1), dif_pos hname]
      rw [hstep] at hbelow ⊢
      refine ⟨hbelow.rooted, hbelow.ups, ?_⟩
      rw [hbelow.names, List.filter_cons_of_pos (by simpa using hname)]
      exact List.append_assoc base.names [segment] _
    · have hstep : base.step segment = base := by
        rw [step, if_neg (Ne.symm h.1), dif_neg hname]
      rw [hstep] at hbelow ⊢
      rw [List.filter_cons_of_neg (by simpa using hname)]
      exact hbelow

theorem resolve_below (base : LexicalPath) {path : String} (hroot : hasRoot path = false)
    (h : ".." ∉ segments path) :
    (base.resolve path).Below base ((segments path).filter (fun segment => IsName segment)) := by
  rw [resolve, hroot]
  exact foldl_step_below base h

end LexicalPath

end Lib
