import Mathlib

/-!
# Parsers and the texts they read

A parser takes what it reads from the front of a text and leaves the rest. `Reads p text a`
says that `p` reads `text` as `a` whatever follows it, `Refuses p text` that it reads nothing
where `text` stands. A word ends at the first character that does not belong to it and a
repetition at the first text that its item refuses, so their rules look at what comes next.
-/

namespace Lib

abbrev Parser (α : Type) := StateT (List Char) Option α

namespace Parser

variable {α β : Type}

/-- Reads one text. -/
def literal (lit : String) : Parser Unit := fun text =>
  if lit.toList.isPrefixOf text then some ((), text.drop lit.toList.length) else none

/-- Reads the longest non-empty word over an alphabet. -/
def word (p : Char → Bool) : Parser String := fun text =>
  if text.takeWhile p = [] then none
  else some (String.ofList (text.takeWhile p), text.dropWhile p)

/-- Reads with the second parser what the first one refuses. -/
def orElse (p q : Parser α) : Parser α := fun text =>
  (p text).or (q text)

/-- Reads nothing. -/
def refuse : Parser α := fun _ =>
  none

def manyUpTo (p : Parser α) : ℕ → Parser (List α)
  | 0 => pure []
  | n + 1 => fun text =>
    match p text with
    | none => some ([], text)
    | some (a, rest) => (manyUpTo p n rest).map fun (as, rest) => (a :: as, rest)

/-- Reads items until one is refused; a text has no more items than characters. -/
def many (p : Parser α) : Parser (List α) := fun text =>
  manyUpTo p text.length text

/-- Reads a whole text. -/
def parse (p : Parser α) (text : String) : Option α :=
  match p text.toList with
  | some (a, []) => some a
  | _ => none

/-- The parser reads the text as a value, whatever follows. -/
def Reads (p : Parser α) (text : List Char) (a : α) : Prop :=
  ∀ rest, p (text ++ rest) = some (a, rest)

/-- The parser reads nothing where the text stands. -/
def Refuses (p : Parser α) (text : List Char) : Prop :=
  ∀ rest, p (text ++ rest) = none

lemma bind_apply (p : Parser α) (f : α → Parser β) (text : List Char) :
    (p >>= f) text = (p text).bind fun read => f read.1 read.2 :=
  rfl

lemma Reads.bind {p : Parser α} {f : α → Parser β} {text text' : List Char} {a : α} {b : β}
    (hp : Reads p text a) (hf : Reads (f a) text' b) : Reads (p >>= f) (text ++ text') b := by
  intro rest
  rw [bind_apply, List.append_assoc, hp, Option.bind_some]
  exact hf rest

lemma Reads.bind_pure {p : Parser α} {text : List Char} {a : α} (h : Reads p text a)
    (f : α → β) : Reads (p >>= fun a => Pure.pure (f a)) text (f a) := by
  intro rest
  rw [bind_apply, h rest, Option.bind_some]
  rfl

lemma reads_literal (lit : String) : Reads (literal lit) lit.toList () := by
  intro rest
  have hprefix : lit.toList.isPrefixOf (lit.toList ++ rest) = true :=
    List.isPrefixOf_iff_prefix.mpr (List.prefix_append _ _)
  rw [literal, if_pos hprefix, List.drop_left]

/-- A literal and what is read after it. -/
lemma Reads.literal {lit : String} {f : Unit → Parser β} {text : List Char} {b : β}
    (hf : Reads (f ()) text b) : Reads (Parser.literal lit >>= f) (lit.toList ++ text) b :=
  (reads_literal lit).bind hf

/-- A literal and nothing after it. -/
lemma Reads.literal_end (lit : String) (b : β) :
    Reads (Parser.literal lit >>= fun _ => Pure.pure b) lit.toList b :=
  (reads_literal lit).bind_pure fun _ => b

/-- The text is not empty and does not go on with the alphabet. -/
def Stops (p : Char → Bool) (text : List Char) : Prop :=
  ∃ c rest, text = c :: rest ∧ p c = false

lemma stops_toList {p : Char → Bool} {lit : String} {c : Char} {rest : List Char}
    (hlit : lit.toList = c :: rest) (hc : p c = false) : Stops p lit.toList :=
  ⟨c, rest, hlit, hc⟩

lemma word_append {p : Char → Bool} {w text : List Char} (hw : ∀ c ∈ w, p c = true)
    (hne : w ≠ []) (hstop : Stops p text) :
    word p (w ++ text) = some (String.ofList w, text) := by
  obtain ⟨c, rest, rfl, hc⟩ := hstop
  have htake : (w ++ c :: rest).takeWhile p = w := by
    rw [List.takeWhile_append_of_pos hw, List.takeWhile_cons, hc]
    simp
  have hdrop : (w ++ c :: rest).dropWhile p = c :: rest := by
    rw [List.dropWhile_append_of_pos hw, List.dropWhile_cons, hc]
    simp
  rw [word, htake, hdrop, if_neg hne]

/-- A text over an alphabet that is not empty. -/
structure IsWord (p : Char → Bool) (w : String) : Prop where
  ne_nil : w.toList ≠ []
  mem : ∀ c ∈ w.toList, p c = true

lemma Stops.append {p : Char → Bool} {text : List Char} (h : Stops p text) (rest : List Char) :
    Stops p (text ++ rest) := by
  obtain ⟨c, after, rfl, hc⟩ := h
  exact ⟨c, after ++ rest, rfl, hc⟩

/-- A word, and what is read after it. -/
lemma Reads.word {p : Char → Bool} {f : String → Parser β} {w : String} {text : List Char} {b : β}
    (hw : IsWord p w) (hstop : Stops p text) (hf : Reads (f w) text b) :
    Reads (Parser.word p >>= f) (w.toList ++ text) b := by
  intro rest
  rw [bind_apply, List.append_assoc, word_append hw.mem hw.ne_nil (hstop.append rest),
    Option.bind_some, String.ofList_toList]
  exact hf rest

/-- A word, the literal that ends it, and what is read after that. -/
lemma Reads.word_literal {p : Char → Bool} {lit w : String} {f : String → Unit → Parser β}
    {text : List Char} {b : β} (hw : IsWord p w) (hstop : Stops p lit.toList)
    (hf : Reads (f w ()) text b) :
    Reads (Parser.word p >>= fun w => Parser.literal lit >>= f w)
      (w.toList ++ (lit.toList ++ text)) b :=
  Reads.word hw (hstop.append _) (Reads.literal hf)

lemma Reads.orElse_left {p q : Parser α} {text : List Char} {a : α} (h : Reads p text a) :
    Reads (orElse p q) text a := by
  intro rest
  rw [orElse, h rest, Option.some_or]

lemma Reads.orElse_right {p q : Parser α} {text : List Char} {a : α} (hp : Refuses p text)
    (hq : Reads q text a) : Reads (orElse p q) text a := by
  intro rest
  rw [orElse, hp rest, Option.none_or, hq rest]

lemma Refuses.append {p : Parser α} {text : List Char} (h : Refuses p text)
    (text' : List Char) : Refuses p (text ++ text') := by
  intro rest
  rw [List.append_assoc, h]

lemma Refuses.bind {p : Parser α} {text : List Char} (h : Refuses p text) (f : α → Parser β) :
    Refuses (p >>= f) text := by
  intro rest
  rw [bind_apply, h rest, Option.bind_none]

lemma Refuses.bind_right {p : Parser α} {f : α → Parser β} {text text' : List Char} {a : α}
    (hp : Reads p text a) (hf : Refuses (f a) text') : Refuses (p >>= f) (text ++ text') := by
  intro rest
  rw [bind_apply, List.append_assoc, hp, Option.bind_some]
  exact hf rest

/-- A word, and a refusal after it. -/
lemma Refuses.word {p : Char → Bool} {f : String → Parser β} {w : String} {text : List Char}
    (hw : IsWord p w) (hstop : Stops p text) (hf : Refuses (f w) text) :
    Refuses (Parser.word p >>= f) (w.toList ++ text) := by
  intro rest
  rw [bind_apply, List.append_assoc, word_append hw.mem hw.ne_nil (hstop.append rest),
    Option.bind_some, String.ofList_toList]
  exact hf rest

lemma refuses_refuse (text : List Char) : Refuses (refuse : Parser α) text :=
  fun _ => rfl

lemma Refuses.literal {lit : String} {text : List Char}
    (h : ∀ rest, lit.toList.isPrefixOf (text ++ rest) = false) : Refuses (literal lit) text := by
  intro rest
  rw [Parser.literal, if_neg (by rw [h rest]; exact Bool.false_ne_true)]

/-- A literal that begins outside the alphabet is not read where a word stands. -/
lemma Refuses.literal_word {p : Char → Bool} {lit w : String} (hw : IsWord p w)
    (hstop : Stops p lit.toList) : Refuses (Parser.literal lit) w.toList := by
  obtain ⟨c, after, hlit, hc⟩ := hstop
  apply Refuses.literal
  intro rest
  cases hchars : w.toList with
  | nil => exact absurd hchars hw.ne_nil
  | cons first chars =>
    have hfirst : p first = true := hw.mem first (hchars ▸ List.mem_cons_self)
    have hne : c ≠ first := by
      rintro rfl
      rw [hc] at hfirst
      cases hfirst
    rw [hlit, List.cons_append, List.isPrefixOf_cons_cons, beq_eq_false_iff_ne.mpr hne,
      Bool.false_and]

lemma Refuses.flatMap {γ : Type} {p : Parser α} {print : γ → List Char} {xs : List γ}
    {text : List Char} (hxs : ∀ x ∈ xs, Refuses p (print x)) (htext : Refuses p text) :
    Refuses p (xs.flatMap print ++ text) := by
  cases xs with
  | nil => exact htext
  | cons x xs =>
    rw [List.flatMap_cons, List.append_assoc]
    exact (hxs x List.mem_cons_self).append _

lemma manyUpTo_flatMap {γ : Type} {p : Parser α} {print : γ → List Char} {value : γ → α}
    {xs : List γ} (hxs : ∀ x ∈ xs, Reads p (print x) (value x)) {rest : List Char}
    (hrest : p rest = none) {n : ℕ} (hn : xs.length ≤ n) :
    manyUpTo p n (xs.flatMap print ++ rest) = some (xs.map value, rest) := by
  induction xs generalizing n with
  | nil =>
    cases n with
    | zero => rfl
    | succ n => simp [manyUpTo, hrest]
  | cons x xs ih =>
    obtain ⟨m, rfl⟩ : ∃ m, n = m + 1 := ⟨n - 1, by simp at hn; omega⟩
    have hx := hxs x List.mem_cons_self
    have ih := ih (fun y hy => hxs y (List.mem_cons_of_mem _ hy))
      (Nat.le_of_succ_le_succ hn)
    rw [List.flatMap_cons, List.append_assoc, manyUpTo]
    dsimp only
    rw [hx]
    simp only [ih, Option.map_some, List.map_cons]

/-- An item that some text refuses does not read the empty text. -/
lemma Reads.ne_nil {p : Parser α} {text text' : List Char} {a : α} (h : Reads p text a)
    (hrefuses : Refuses p text') : text ≠ [] := by
  rintro rfl
  have hread := h (text' ++ [])
  rw [List.nil_append, hrefuses []] at hread
  cases hread

lemma length_le_flatMap {γ : Type} {print : γ → List Char} {xs : List γ}
    (h : ∀ x ∈ xs, print x ≠ []) : xs.length ≤ (xs.flatMap print).length := by
  induction xs with
  | nil => exact Nat.zero_le _
  | cons x xs ih =>
    have hx : 0 < (print x).length := List.length_pos_iff.mpr (h x List.mem_cons_self)
    have ih := ih (fun y hy => h y (List.mem_cons_of_mem _ hy))
    rw [List.flatMap_cons, List.length_append, List.length_cons]
    omega

/-- Items one after the other, and what is read after the last. -/
lemma Reads.many {γ : Type} {p : Parser α} {f : List α → Parser β} {print : γ → List Char}
    (value : γ → α) {xs : List γ} {text : List Char} {b : β}
    (hxs : ∀ x ∈ xs, Reads p (print x) (value x)) (hrefuses : Refuses p text)
    (hf : Reads (f (xs.map value)) text b) :
    Reads (many p >>= f) (xs.flatMap print ++ text) b := by
  intro rest
  have hlength : xs.length ≤ (xs.flatMap print ++ (text ++ rest)).length := by
    have hle := length_le_flatMap fun x hx => (hxs x hx).ne_nil hrefuses
    rw [List.length_append]
    omega
  rw [bind_apply, List.append_assoc, Parser.many, manyUpTo_flatMap hxs (hrefuses rest) hlength,
    Option.bind_some]
  exact hf rest

theorem Reads.parse {p : Parser α} {text : String} {a : α} (h : Reads p text.toList a) :
    parse p text = some a := by
  have hread := h []
  rw [List.append_nil] at hread
  rw [Parser.parse, hread]

end Parser
end Lib
