import Pingling.Lib.Checks
import Pingling.Lib.LexicalPath
import Pingling.Domain.Types

/-!
# Adapter manifests

A manifest names the library of an adapter by a path inside the package of the adapter. The
check of that path looks at its components; what it is for is where the path leads.
-/

namespace Pingling.Cores
open Lib Domain UnixPath

def pinglingCoreAbiVersion : UInt32 := 1

/-- The fields of a manifest that are checked. -/
structure AdapterManifest where
  schema : UInt32
  abi : UInt32
  coreType : String
  engine : String
  version : String
  library : String
  deriving DecidableEq

def staysInsidePackage : Component → Bool
  | .normal _ | .curDir => true
  | .rootDir | .parentDir => false

/-- `path` is the path of the manifest, as it is shown. -/
def validateLibraryPath (library path : String) : Except VpnError Unit :=
  if hasRoot library || !(components library).all staysInsidePackage then
    .error (.invalidConfiguration s!"{path} uses unsafe adapter library path {library}")
  else .ok ()

def validateAdapterManifest (manifest : AdapterManifest) (path : String) :
    Except VpnError Unit :=
  if manifest.schema ≠ 1 then
    .error (.invalidConfiguration s!"{path} uses unsupported schema {manifest.schema}")
  else if manifest.abi ≠ pinglingCoreAbiVersion then
    .error (.invalidConfiguration s!"{path} requires unsupported ABI {manifest.abi}")
  else if (Text.trim manifest.coreType).isEmpty || (Text.trim manifest.engine).isEmpty ||
      (Text.trim manifest.version).isEmpty || (Text.trim manifest.library).isEmpty then
    .error (.invalidConfiguration s!"{path} is missing required adapter identity fields")
  else validateLibraryPath manifest.library path

lemma validateLibraryPath_eq_ok {library path : String} :
    validateLibraryPath library path = .ok () ↔
      hasRoot library = false ∧ ".." ∉ segments library := by
  have hall : (components library).all staysInsidePackage = true ↔
      ∀ c ∈ components library, c ≠ .rootDir ∧ c ≠ .parentDir := by
    rw [List.all_eq_true]
    refine forall₂_congr fun c _ => ?_
    cases c <;> simp [staysInsidePackage]
  rw [validateLibraryPath, ite_error_eq_ok]
  simp only [Bool.or_eq_true, Bool.not_eq_true', not_or, Bool.not_eq_false, Bool.not_eq_true,
    and_true, hall, forall_components_iff]
  exact ⟨And.right, fun h => ⟨h.1, h⟩⟩

lemma validateAdapterManifest_library {manifest : AdapterManifest} {path : String}
    (h : validateAdapterManifest manifest path = .ok ()) :
    validateLibraryPath manifest.library path = .ok () := by
  simp only [validateAdapterManifest, ite_error_eq_ok] at h
  exact h.2.2.2

/-- The library of an accepted manifest is in the directory of the package: below it when the
path has a name in it, and otherwise the directory itself. A path that has a name in it,
begins below the directory and never leads up is accepted. -/
theorem library_stays_inside (path : String) :
    (∀ manifest, validateAdapterManifest manifest path = .ok () →
      ∀ packageDir : LexicalPath, ∃ rest,
        (packageDir.resolve manifest.library).Below packageDir rest ∧
          (rest ≠ [] ↔ ∃ segment ∈ segments manifest.library, IsName segment)) ∧
    ∀ library, (∃ segment ∈ segments library, IsName segment) → hasRoot library = false →
      ".." ∉ segments library → validateLibraryPath library path = .ok () := by
  constructor
  · intro manifest h packageDir
    obtain ⟨hroot, hup⟩ := validateLibraryPath_eq_ok.mp (validateAdapterManifest_library h)
    refine ⟨_, packageDir.resolve_below hroot hup, ?_⟩
    rw [ne_eq, List.filter_eq_nil_iff]
    simp
  · intro library _ hroot hup
    exact validateLibraryPath_eq_ok.mpr ⟨hroot, hup⟩

/-- A manifest of the tests, with a library of one's own choice. -/
def testManifest (library : String) : AdapterManifest :=
  ⟨1, pinglingCoreAbiVersion, "test@1.0", "test", "1.0.0", library⟩

theorem library_stays_inside_test :
    validateAdapterManifest (testManifest "./lib//test.so") "/tmp/pkg/manifest.json" = .ok () ∧
      ∃ rest, (LexicalPath.root.resolve "./lib//test.so").Below .root rest ∧ rest ≠ [] := by
  have hvalid : validateAdapterManifest (testManifest "./lib//test.so")
      "/tmp/pkg/manifest.json" = .ok () := by
    rfl
  obtain ⟨rest, hbelow, hne⟩ := (library_stays_inside "/tmp/pkg/manifest.json").1 _ hvalid .root
  refine ⟨hvalid, rest, hbelow, hne.mpr ⟨"test.so", ?_, by decide⟩⟩
  decide

/-- A single dot is accepted as a library, and leads to the directory of the package. -/
theorem dot_library_accepted :
    validateAdapterManifest (testManifest ".") "/tmp/pkg/manifest.json" = .ok () ∧
      ∀ packageDir : LexicalPath, packageDir.resolve "." = packageDir := by
  refine ⟨rfl, fun packageDir => ?_⟩
  have hsegments : segments "." = ["."] := by decide
  rw [LexicalPath.resolve, hsegments]
  rfl

end Pingling.Cores
