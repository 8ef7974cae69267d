import Mathlib

/-!
# Command lines

A command line is a list of words. Some words are flags, which take the word after them, and some
stand for themselves. A scan goes through the words from the front and stops at the first that fits
nowhere. What it finds is the only way to read the words.
-/

namespace Lib.Args

/-- The flags and their words, the words that stand for themselves, and those that no flag takes. -/
structure Grammar (φ : Type) where
  name : φ → String
  flag? : String → Option φ
  flag?_eq : ∀ word flag, flag? word = some flag ↔ word = name flag
  plain : String → Bool
  refused : String → Bool

inductive Item (φ : Type) where
  | valued (flag : φ) (value : String)
  | plain (word : String)
  deriving DecidableEq

inductive Failure (φ : Type) where
  | noValue (flag : φ)
  | unknown (word : String)
  deriving DecidableEq

variable {φ : Type} (g : Grammar φ)

namespace Item

def words : Item φ → List String
  | .valued flag value => [g.name flag, value]
  | .plain word => [word]

def Valid : Item φ → Prop
  | .valued _ value => g.refused value = false
  | .plain word => g.flag? word = none ∧ g.plain word = true

end Item

/-- What is found, and why the scan stopped before the end if it did. -/
def scan : List String → List (Item φ) × Option (Failure φ)
  | [] => ([], none)
  | word :: rest =>
    match g.flag? word with
    | some flag =>
      match rest with
      | [] => ([], some (.noValue flag))
      | value :: rest =>
        if g.refused value then ([], some (.noValue flag))
        else Prod.map (.valued flag value :: ·) id (scan rest)
    | none =>
      if g.plain word then Prod.map (.plain word :: ·) id (scan rest)
      else ([], some (.unknown word))

/-- The words that a scan leaves when it stops. -/
def StopsAt (rest : List String) : Option (Failure φ) → Prop
  | none => rest = []
  | some (.noValue flag) =>
    rest = [g.name flag] ∨
      ∃ value more, rest = g.name flag :: value :: more ∧ g.refused value = true
  | some (.unknown word) => g.flag? word = none ∧ g.plain word = false ∧ ∃ more, rest = word :: more

variable {g}

lemma flag?_name (flag : φ) : g.flag? (g.name flag) = some flag :=
  (g.flag?_eq _ _).mpr rfl

/-- A scan finds valid items, and the words are theirs up to where it stops. -/
lemma scan_sound (args : List String) :
    (∀ item ∈ (scan g args).1, item.Valid g) ∧
      ∃ rest, args = (scan g args).1.flatMap (Item.words g) ++ rest ∧
        StopsAt g rest (scan g args).2 := by
  fun_induction scan g args with
  | case1 => exact ⟨fun _ h => absurd h List.not_mem_nil, [], rfl, rfl⟩
  | case2 word flag hflag =>
    obtain rfl := (g.flag?_eq _ _).mp hflag
    exact ⟨fun _ h => absurd h List.not_mem_nil, _, rfl, Or.inl rfl⟩
  | case3 word flag hflag value rest hrefused =>
    obtain rfl := (g.flag?_eq _ _).mp hflag
    exact ⟨fun _ h => absurd h List.not_mem_nil, _, rfl, Or.inr ⟨value, rest, rfl, hrefused⟩⟩
  | case4 word flag hflag value rest hrefused ih =>
    obtain rfl := (g.flag?_eq _ _).mp hflag
    obtain ⟨hvalid, left, hwords, hstops⟩ := ih
    refine ⟨List.forall_mem_cons.mpr ⟨(Bool.not_eq_true _).mp hrefused, hvalid⟩, left, ?_, hstops⟩
    rw [Prod.map_fst, List.flatMap_cons, Item.words, List.append_assoc, ← hwords]
    rfl
  | case5 word rest hflag hplain ih =>
    obtain ⟨hvalid, left, hwords, hstops⟩ := ih
    refine ⟨List.forall_mem_cons.mpr ⟨⟨hflag, hplain⟩, hvalid⟩, left, ?_, hstops⟩
    rw [Prod.map_fst, List.flatMap_cons, Item.words, List.append_assoc, ← hwords]
    rfl
  | case6 word rest hflag hplain =>
    exact ⟨fun _ h => absurd h List.not_mem_nil, _, rfl, hflag, by simpa using hplain, rest, rfl⟩

/-- The words of valid items are scanned as these items. -/
lemma scan_complete {items : List (Item φ)} (hvalid : ∀ item ∈ items, item.Valid g)
    {rest : List String} {failure : Option (Failure φ)} (hstops : StopsAt g rest failure) :
    scan g (items.flatMap (Item.words g) ++ rest) = (items, failure) := by
  induction items with
  | nil =>
    rw [List.flatMap_nil, List.nil_append]
    cases failure with
    | none =>
      rw [show rest = [] from hstops, scan]
    | some failure =>
      cases failure with
      | noValue flag =>
        rcases hstops with rfl | ⟨value, more, rfl, hrefused⟩
        · rw [scan, flag?_name]
        · rw [scan, flag?_name]
          exact if_pos hrefused
      | unknown word =>
        obtain ⟨hflag, hplain, more, rfl⟩ := hstops
        rw [scan, hflag]
        exact if_neg (by rw [hplain]; exact Bool.false_ne_true)
  | cons item items ih =>
    obtain ⟨hitem, hvalid⟩ := List.forall_mem_cons.mp hvalid
    have ih := ih hvalid
    rw [List.flatMap_cons, List.append_assoc]
    cases item with
    | valued flag value =>
      have hkeep : ¬ g.refused value = true := by
        rw [hitem]
        exact Bool.false_ne_true
      rw [Item.words, List.cons_append, List.singleton_append, scan, flag?_name]
      simp only [if_neg hkeep, ih]
      rfl
    | plain word =>
      rw [Item.words, List.singleton_append, scan, hitem.1]
      simp only [if_pos hitem.2, ih]
      rfl

/-- What a scan finds is the only way to read the words. -/
theorem scan_eq_iff {args : List String} {items : List (Item φ)} {failure : Option (Failure φ)} :
    scan g args = (items, failure) ↔
      (∀ item ∈ items, item.Valid g) ∧
        ∃ rest, args = items.flatMap (Item.words g) ++ rest ∧ StopsAt g rest failure := by
  constructor
  · intro h
    have hsound := scan_sound (g := g) args
    rw [h] at hsound
    exact hsound
  · rintro ⟨hvalid, rest, rfl, hstops⟩
    exact scan_complete hvalid hstops

end Lib.Args
