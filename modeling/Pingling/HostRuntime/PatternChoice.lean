import Pingling.HostRuntime.MethodDispatch
import Pingling.Lib.KeyedFold

/-!
# The pattern a plugin is asked by

Of a plugin's patterns for a method, the registry plans the most specific one: the method itself
before a wildcard, and the longer of two wildcards. Two patterns for one method never come out
equal, because the fronts of wildcards are all fronts of the method.
-/

namespace Pingling.HostContract
open Lib Std

/-- The other pattern is a wildcard, and this one is none or has a longer front. -/
def MoreSpecific (pattern pattern' : String) : Prop :=
  ∃ front', pattern' = front' ++ ".*" ∧
    ∀ front, pattern = front ++ ".*" → front'.utf8ByteSize < front.utf8ByteSize

lemma specificity_exact {pattern : String} (h : Text.endsWith ".*" pattern = false) :
    methodPatternSpecificity pattern = (1, pattern.utf8ByteSize) := by
  rw [methodPatternSpecificity, Text.stripSuffix_eq_none.mpr h]

lemma specificity_wildcard (front : String) :
    methodPatternSpecificity (front ++ ".*") = (0, front.utf8ByteSize) := by
  rw [methodPatternSpecificity, Text.stripSuffix_append]

/-- The front of a wildcard is a front of all its methods. -/
lemma exists_append_of_matches {method front : String}
    (h : method = front ∨ ∃ rest, method = front ++ "." ++ rest) :
    ∃ rest, method = front ++ rest := by
  rcases h with rfl | ⟨rest, rfl⟩
  · exact ⟨"", by simp⟩
  · exact ⟨"." ++ rest, String.append_assoc⟩

/-- Two patterns for one method that are as specific as each other are one pattern. -/
lemma eq_of_specificity_eq {pattern pattern' method : String} (h : PatternMatches pattern method)
    (h' : PatternMatches pattern' method)
    (hspecificity : methodPatternSpecificity pattern = methodPatternSpecificity pattern') :
    pattern = pattern' := by
  rcases h with ⟨hexact, rfl⟩ | ⟨front, rfl, hfront⟩
  · rcases h' with ⟨-, rfl⟩ | ⟨front', rfl, -⟩
    · rfl
    · rw [specificity_exact hexact, specificity_wildcard] at hspecificity
      exact nomatch hspecificity
  · rcases h' with ⟨hexact', rfl⟩ | ⟨front', rfl, hfront'⟩
    · rw [specificity_wildcard, specificity_exact hexact'] at hspecificity
      exact nomatch hspecificity
    · rw [specificity_wildcard, specificity_wildcard, Prod.mk.injEq] at hspecificity
      obtain ⟨rest, hrest⟩ := exists_append_of_matches hfront
      obtain ⟨rest', hrest'⟩ := exists_append_of_matches hfront'
      rw [Text.eq_of_append_eq_append (hrest.symm.trans hrest') hspecificity.2]

lemma front_inj {front front' : String} (h : front ++ ".*" = front' ++ ".*") : front = front' := by
  have hstrip := congrArg (Text.stripSuffix ".*") h
  rwa [Text.stripSuffix_append, Text.stripSuffix_append, Option.some.injEq] at hstrip

lemma not_wildcard {pattern front : String} (h : Text.endsWith ".*" pattern = false) :
    pattern ≠ front ++ ".*" := by
  rintro rfl
  rw [Text.endsWith_iff.mpr ⟨front, rfl⟩] at h
  cases h

/-- Of two patterns for one method, the more specific one comes out greater. -/
lemma moreSpecific_iff {pattern pattern' method : String} (h : PatternMatches pattern method)
    (h' : PatternMatches pattern' method) :
    MoreSpecific pattern pattern' ↔
      toLex (methodPatternSpecificity pattern') < toLex (methodPatternSpecificity pattern) := by
  rw [Prod.Lex.toLex_lt_toLex]
  rcases h' with ⟨hexact', hmethod'⟩ | ⟨front', rfl, -⟩
  · have hnot : ¬MoreSpecific pattern pattern' := fun ⟨_, hfront', _⟩ =>
      not_wildcard hexact' hfront'
    rw [specificity_exact hexact']
    rcases h with ⟨hexact, hmethod⟩ | ⟨front, rfl, -⟩
    · obtain rfl : pattern = pattern' := hmethod.symm.trans hmethod'
      rw [specificity_exact hexact]
      exact iff_of_false hnot (by simp)
    · rw [specificity_wildcard]
      simpa using hnot
  · rw [specificity_wildcard]
    rcases h with ⟨hexact, -⟩ | ⟨front, rfl, -⟩
    · rw [specificity_exact hexact]
      refine iff_of_true ⟨front', rfl, fun front hfront => ?_⟩ (.inl Nat.zero_lt_one)
      exact absurd hfront (not_wildcard hexact)
    · rw [specificity_wildcard]
      constructor
      · rintro ⟨other, hother, hlonger⟩
        rw [front_inj hother]
        exact .inr ⟨rfl, hlonger front rfl⟩
      · rintro (hlt | ⟨-, hlonger⟩)
        · exact absurd hlt (Nat.lt_irrefl 0)
        · refine ⟨front', rfl, fun other hother => ?_⟩
          rw [← front_inj hother]
          exact hlonger

instance : TransCmp patternOrder :=
  inferInstanceAs (TransCmp (compareLex _ _))

lemma patternOrder_of_lt {pattern pattern' : String}
    (h : toLex (methodPatternSpecificity pattern') < toLex (methodPatternSpecificity pattern)) :
    patternOrder pattern pattern' = .gt := by
  rcases Prod.Lex.toLex_lt_toLex.mp h with hfirst | ⟨hfirst, hsecond⟩
  · have hgt := compare_gt_iff_gt.mpr hfirst
    simp only [patternOrder, compareLex, compareOn, hgt, Ordering.then]
  · have hgt := compare_gt_iff_gt.mpr hsecond
    simp only [patternOrder, compareLex, compareOn, hfirst, compare_self, hgt, Ordering.then]

/-- Of two patterns for one method, one is more specific than the other. -/
lemma moreSpecific_or_of_ne {pattern pattern' method : String} (h : PatternMatches pattern method)
    (h' : PatternMatches pattern' method) (hne : pattern ≠ pattern') :
    MoreSpecific pattern pattern' ∨ MoreSpecific pattern' pattern := by
  rw [moreSpecific_iff h h', moreSpecific_iff h' h]
  apply lt_or_gt_of_ne
  exact fun heq => hne (eq_of_specificity_eq h h' (toLex.injective heq).symm)

/-- A wildcard that matches a method matches what is below it. -/
lemma PatternMatches.append_segment {front method : String}
    (h : PatternMatches (front ++ ".*") method) (segment : String) :
    PatternMatches (front ++ ".*") (method ++ "." ++ segment) := by
  rcases h with ⟨hexact, -⟩ | ⟨front', hfront', hmethod⟩
  · rw [Text.endsWith_iff.mpr ⟨front, rfl⟩] at hexact
    exact nomatch hexact
  · refine .inr ⟨front', hfront', .inr ?_⟩
    rcases hmethod with rfl | ⟨rest, rfl⟩
    · exact ⟨segment, rfl⟩
    · exact ⟨rest ++ "." ++ segment, by simp only [String.append_assoc]⟩

/-- The method below a method, given by the segments that follow. -/
def below (method : String) (segments : List String) : String :=
  segments.foldl (fun front segment => front ++ "." ++ segment) method

lemma PatternMatches.below {front : String} :
    ∀ {method : String}, PatternMatches (front ++ ".*") method → ∀ segments : List String,
      PatternMatches (front ++ ".*") (below method segments)
  | _, h, [] => h
  | _, h, segment :: segments => PatternMatches.below (h.append_segment segment) segments

/-- A manifest's binding for a method has its most specific pattern for it. -/
lemma PluginManifest.methodBinding_spec {manifest : PluginManifest} {method : String}
    {b : MethodBinding} (h : manifest.methodBinding method = some b) :
    b.pattern ∈ manifest.dispatchMethods ∧ methodMatches b.pattern method = true ∧
      ∀ pattern ∈ manifest.dispatchMethods, methodMatches pattern method = true →
        pattern ≠ b.pattern → MoreSpecific b.pattern pattern := by
  rw [methodBinding, Option.map_eq_some_iff] at h
  obtain ⟨best, hbest, rfl⟩ := h
  obtain ⟨hmem, hgreatest⟩ := maxBy_spec patternOrder hbest
  obtain ⟨hmem, hmatches⟩ := List.mem_filter.mp hmem
  refine ⟨hmem, hmatches, fun pattern hpattern hmatches' hne => ?_⟩
  have hle := hgreatest pattern (List.mem_filter.mpr ⟨hpattern, hmatches'⟩)
  have hbest := methodMatches_iff.mp hmatches
  have hother := methodMatches_iff.mp hmatches'
  rcases moreSpecific_or_of_ne hbest hother hne.symm with hmore | hless
  · exact hmore
  · rw [patternOrder_of_lt ((moreSpecific_iff hother hbest).mp hless)] at hle
    exact absurd hle (by decide)

namespace PluginRegistry

variable {self : PluginRegistry}

/-- A registered plugin with a pattern for the method has one binding. -/
lemma WellFormed.filter_methodBindings (h : self.WellFormed) {m : PluginManifest}
    (hm : m ∈ self.manifests) {method : String} {b : MethodBinding}
    (hb : m.methodBinding method = some b) :
    (self.methodBindings method).filter (fun b' => b'.pluginId = m.id) = [b] := by
  have hnodup : (self.methodBindings method).Nodup := by
    apply (h.methodBindings_pairwise method).imp
    rintro b b' hlt rfl
    rcases hlt with hlt | ⟨-, hlt⟩
    · exact absurd hlt Int32.lt_irrefl
    · exact absurd hlt (String.lt_irrefl b.pluginId)
  have hids : ((self.methodBindings method).map MethodBinding.pluginId).Nodup := by
    apply List.Nodup.map_on _ hnodup
    intro b hb b' hb' hid
    obtain ⟨m, hm, hbinding⟩ := mem_methodBindings.mp hb
    obtain ⟨m', hm', hbinding'⟩ := mem_methodBindings.mp hb'
    rw [(PluginManifest.methodBinding_eq_some hbinding).1,
      (PluginManifest.methodBinding_eq_some hbinding').1] at hid
    rw [h.eq_of_id hm hm' hid, hbinding', Option.some.injEq] at hbinding
    exact hbinding.symm
  have hfilter := filter_key_of_mem hids (mem_methodBindings.mpr ⟨m, hm, hb⟩)
  rwa [(PluginManifest.methodBinding_eq_some hb).1] at hfilter

/-- A plugin that has a pattern for a method is bound to it once, by the only pattern that is more
specific than every other. -/
theorem methodBindings_mostSpecific (h : Reachable self) {m : PluginManifest}
    (hm : m ∈ self.manifests) {method : String}
    (hserves : ∃ pattern ∈ m.dispatchMethods, methodMatches pattern method = true) :
    (∃ b, (self.methodBindings method).filter (fun b => b.pluginId = m.id) = [b] ∧
      b.pattern ∈ m.dispatchMethods ∧ methodMatches b.pattern method = true ∧
      ∀ pattern ∈ m.dispatchMethods, methodMatches pattern method = true →
        pattern ≠ b.pattern → MoreSpecific b.pattern pattern) ∧
    (∀ pattern pattern', methodMatches pattern method = true →
      methodMatches pattern' method = true → pattern ≠ pattern' →
        methodPatternSpecificity pattern ≠ methodPatternSpecificity pattern') ∧
    ∀ front, methodMatches (front ++ ".*") method = true → ∀ segments,
      methodMatches (front ++ ".*") (below method segments) = true := by
  refine ⟨?_, ?_, ?_⟩
  · simp only [methodMatches_iff] at hserves
    obtain ⟨b, hb⟩ := PluginManifest.methodBinding_isSome.mpr hserves
    exact ⟨b, h.wellFormed.filter_methodBindings hm hb, PluginManifest.methodBinding_spec hb⟩
  · intro pattern pattern' hmatches hmatches' hne heq
    exact hne (eq_of_specificity_eq (methodMatches_iff.mp hmatches)
      (methodMatches_iff.mp hmatches') heq)
  · intro front hmatches segments
    rw [methodMatches_iff] at hmatches ⊢
    exact hmatches.below segments

/-- A plugin with a method and a wildcard above it. -/
def methodsPlugin : PluginManifest :=
  ⟨"example.methods", 10, ["config.*", "config.process"], [], [], [], none⟩

theorem methodBindings_mostSpecific_process :
    (∃ b, ((new.register methodsPlugin).2.methodBindings "config.process").filter
        (fun b => b.pluginId = "example.methods") = [b] ∧
      b.pattern ∈ methodsPlugin.dispatchMethods ∧
      methodMatches b.pattern "config.process" = true ∧
      ∀ pattern ∈ methodsPlugin.dispatchMethods, methodMatches pattern "config.process" = true →
        pattern ≠ b.pattern → MoreSpecific b.pattern pattern) ∧
    (∀ pattern pattern', methodMatches pattern "config.process" = true →
      methodMatches pattern' "config.process" = true → pattern ≠ pattern' →
        methodPatternSpecificity pattern ≠ methodPatternSpecificity pattern') ∧
    ∀ front, methodMatches (front ++ ".*") "config.process" = true → ∀ segments,
      methodMatches (front ++ ".*") (below "config.process" segments) = true :=
  have hreach : Reachable (new.register methodsPlugin).2 := Lib.Reachable.init.step methodsPlugin
  have hmem : methodsPlugin ∈ (new.register methodsPlugin).2.manifests :=
    (mem_manifests hreach.wellFormed.keyed).mpr rfl
  methodBindings_mostSpecific hreach hmem ⟨"config.process", by decide, by decide⟩

end PluginRegistry

end Pingling.HostContract
