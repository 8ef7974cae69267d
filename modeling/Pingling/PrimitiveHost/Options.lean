import Pingling.Lib.Args
import Pingling.Lib.Text

/-!
# The options of the primitive host

The words of a command line set options one after the other. A value may not begin with two dashes,
so a flag never swallows the next one. The last word that sets an option wins, and the arguments of
the core are collected in order.
-/

namespace Pingling.PrimitiveHost
open Lib

/-- What the command line says. -/
structure Options where
  core : String
  binary : Option String
  config : Option String
  command : String
  startArgs : List String
  validateArgs : List String
  deriving DecidableEq

/-- The options that have a value. -/
inductive Flag where
  | core
  | binary
  | config
  | startArg
  | validateArg
  deriving DecidableEq

namespace Flag

def name : Flag → String
  | core => "--core"
  | binary => "--binary"
  | config => "--config"
  | startArg => "--start-arg"
  | validateArg => "--validate-arg"

def ofName : String → Option Flag
  | "--core" => some core
  | "--binary" => some binary
  | "--config" => some config
  | "--start-arg" => some startArg
  | "--validate-arg" => some validateArg
  | _ => none

def set (value : String) (opts : Options) : Flag → Options
  | core => { opts with core := value }
  | binary => { opts with binary := some value }
  | config => { opts with config := some value }
  | startArg => { opts with startArgs := opts.startArgs ++ [value] }
  | validateArg => { opts with validateArgs := opts.validateArgs ++ [value] }

end Flag

namespace Options

/-- What holds where the command line says nothing. -/
def default : Options :=
  ⟨"mock", none, none, "status", [], []⟩

def isCommand (arg : String) : Bool :=
  arg = "status" || arg = "check" || arg = "smoke"

/-- A word that `next_value` refuses. -/
def isFlagLike (value : String) : Bool :=
  Text.startsWith "--" value

def requiresValue (flag : Flag) : String :=
  let name := flag.name
  s!"{name} requires a value"

/-- The loop along the arguments. -/
def parseFrom : List String → Options → Except String Options
  | [], opts => .ok opts
  | arg :: rest, opts =>
    match Flag.ofName arg with
    | some flag =>
      match rest with
      | [] => .error (requiresValue flag)
      | value :: rest =>
        if isFlagLike value then .error (requiresValue flag)
        else parseFrom rest (flag.set value opts)
    | none =>
      if isCommand arg then parseFrom rest { opts with command := arg }
      else .error s!"unknown argument `{arg}`"

def parse (args : List String) : Except String Options :=
  parseFrom args default

/-- The command line as flags with values and commands. -/
def grammar : Args.Grammar Flag where
  name := Flag.name
  flag? := Flag.ofName
  flag?_eq word flag := by
    constructor
    · intro h
      unfold Flag.ofName at h
      split at h <;> cases h <;> rfl
    · rintro rfl
      cases flag <;> rfl
  plain := isCommand
  refused := isFlagLike

/-- The values that a flag is given, in order. -/
def valuesOf (flag : Flag) (items : List (Args.Item Flag)) : List String :=
  items.filterMap fun
    | .valued flag' value => if flag' = flag then some value else none
    | .plain _ => none

def commands (items : List (Args.Item Flag)) : List String :=
  items.filterMap fun
    | .plain word => some word
    | .valued _ _ => none

/-- The options that some items say, beside those that stand before them. -/
def said (opts : Options) (items : List (Args.Item Flag)) : Options where
  core := (valuesOf .core items).getLast?.getD opts.core
  binary := (valuesOf .binary items).getLast?.or opts.binary
  config := (valuesOf .config items).getLast?.or opts.config
  command := (commands items).getLast?.getD opts.command
  startArgs := opts.startArgs ++ valuesOf .startArg items
  validateArgs := opts.validateArgs ++ valuesOf .validateArg items

/-- The message of a failure. -/
def explain : Args.Failure Flag → String
  | .noValue flag => requiresValue flag
  | .unknown word => s!"unknown argument `{word}`"

lemma getLast?_cons_getD {α : Type} (a d : α) (as : List α) :
    (a :: as).getLast?.getD d = as.getLast?.getD a := by
  rw [List.getLast?_cons, Option.getD_some]

lemma getLast?_cons_or {α : Type} (a : α) (o : Option α) (as : List α) :
    (a :: as).getLast?.or o = as.getLast?.or (some a) := by
  rw [List.getLast?_cons]
  cases as.getLast? <;> rfl

lemma said_valued (opts : Options) (flag : Flag) (value : String)
    (items : List (Args.Item Flag)) :
    said opts (.valued flag value :: items) = said (flag.set value opts) items := by
  cases flag <;> simp [said, valuesOf, commands, Flag.set, getLast?_cons_getD, getLast?_cons_or]

lemma said_plain (opts : Options) (word : String) (items : List (Args.Item Flag)) :
    said opts (.plain word :: items) = said { opts with command := word } items := by
  simp [said, valuesOf, commands, getLast?_cons_getD]

/-- The loop collects what the scan of the words finds. -/
lemma parseFrom_eq (args : List String) (opts : Options) :
    parseFrom args opts =
      match Args.scan grammar args with
      | (items, none) => .ok (said opts items)
      | (_, some failure) => .error (explain failure) := by
  fun_induction parseFrom args opts with
  | case1 opts => simp [Args.scan, said, valuesOf, commands]
  | case2 arg opts flag hflag =>
    rw [Args.scan, show grammar.flag? arg = some flag from hflag]
    rfl
  | case3 arg opts flag hflag value rest hrefused =>
    rw [Args.scan, show grammar.flag? arg = some flag from hflag]
    simp only [if_pos (show grammar.refused value = true from hrefused)]
    rfl
  | case4 arg opts flag hflag value rest hrefused ih =>
    rw [Args.scan, show grammar.flag? arg = some flag from hflag, ih]
    simp only [if_neg (show ¬grammar.refused value = true from hrefused)]
    rcases Args.scan grammar rest with ⟨items, failure⟩
    cases failure with
    | none => exact congrArg Except.ok (said_valued opts flag value items).symm
    | some failure => rfl
  | case5 arg rest opts hflag hcommand ih =>
    rw [Args.scan, show grammar.flag? arg = none from hflag, ih]
    simp only [if_pos (show grammar.plain arg = true from hcommand)]
    rcases Args.scan grammar rest with ⟨items, failure⟩
    cases failure with
    | none => exact congrArg Except.ok (said_plain opts arg items).symm
    | some failure => rfl
  | case6 arg rest opts hflag hcommand =>
    rw [Args.scan, show grammar.flag? arg = none from hflag]
    simp only [if_neg (show ¬grammar.plain arg = true from hcommand)]
    rfl

/-- Options are accepted just when the words are flags with values and commands, one after the
other, and they are what these say. Otherwise the error is about the first word that fits nowhere:
a flag without a value, or a word that nobody knows. -/
theorem parse_iff (args : List String) :
    (∀ opts, parse args = .ok opts ↔
      ∃ items : List (Args.Item Flag), (∀ item ∈ items, item.Valid grammar) ∧
        args = items.flatMap (Args.Item.words grammar) ∧ opts = said default items) ∧
    ∀ e, parse args = .error e ↔
      ∃ (items : List (Args.Item Flag)) (rest : List String) (failure : Args.Failure Flag),
        (∀ item ∈ items, item.Valid grammar) ∧
        args = items.flatMap (Args.Item.words grammar) ++ rest ∧
        Args.StopsAt grammar rest (some failure) ∧ e = explain failure := by
  have hparse : parse args = _ := parseFrom_eq args default
  rcases hscan : Args.scan grammar args with ⟨items, failure⟩
  obtain ⟨hvalid, rest, hwords, hstops⟩ := Args.scan_eq_iff.mp hscan
  rw [hscan] at hparse
  constructor
  · intro opts
    constructor
    · intro hok
      cases failure with
      | some failure => cases hparse.symm.trans hok
      | none =>
        refine ⟨items, hvalid, ?_, (Except.ok.inj (hparse.symm.trans hok)).symm⟩
        rw [hwords, show rest = [] from hstops, List.append_nil]
    · rintro ⟨items', hvalid', hwords', rfl⟩
      have hscan' : Args.scan grammar args = (items', none) := Args.scan_eq_iff.mpr
        ⟨hvalid', [], hwords'.trans (List.append_nil _).symm, rfl⟩
      obtain ⟨rfl, rfl⟩ := Prod.mk.inj (hscan.symm.trans hscan')
      exact hparse
  · intro e
    constructor
    · intro herror
      cases failure with
      | none => cases hparse.symm.trans herror
      | some failure =>
        exact ⟨items, rest, failure, hvalid, hwords, hstops,
          (Except.error.inj (hparse.symm.trans herror)).symm⟩
    · rintro ⟨items', rest', failure', hvalid', hwords', hstops', rfl⟩
      have hsame := hscan.symm.trans (Args.scan_eq_iff.mpr ⟨hvalid', rest', hwords', hstops'⟩)
      obtain ⟨rfl, rfl⟩ := Prod.mk.inj hsame
      exact hparse

/-- A flag does not swallow the next one, and the last core wins. -/
example :
    parse ["--core", "--binary"] = .error "--core requires a value" ∧
      parse ["--core", "process", "smoke", "--core", "mock", "--start-arg", "-x"] =
        .ok ⟨"mock", none, none, "smoke", ["-x"], []⟩ := by
  decide

end Options
end Pingling.PrimitiveHost
