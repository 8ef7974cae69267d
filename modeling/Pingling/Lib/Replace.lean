import Mathlib

/-!
# Replacing a file

A file is replaced by writing a temporary file beside it and renaming that over it. Each disk
operation may be the last one, because it fails or because the process dies. The rename is
atomic, so the file holds its old contents or all of the new ones.
-/

namespace Lib

structure Disk where
  file : Option ByteArray
  tmp : Option ByteArray

inductive DiskOp where
  | createDir
  | createTmp
  | write (bytes : ByteArray)
  | sync
  | rename
  deriving DecidableEq

/-- An operation that is completed. A file that is created is truncated. -/
def DiskOp.run : DiskOp → Disk → Disk
  | .createDir, disk | .sync, disk => disk
  | .createTmp, disk => { disk with tmp := some .empty }
  | .write bytes, disk => { disk with tmp := disk.tmp.map (· ++ bytes) }
  | .rename, disk =>
    match disk.tmp with
    | some bytes => ⟨some bytes, none⟩
    | none => disk

inductive Interruption where
  | crash
  | failure (error : String)
  deriving DecidableEq

/-- An interruption after a number of operations. The operation that it hits may leave
anything in the temporary file. -/
structure Cut where
  done : ℕ
  left : Option ByteArray
  cause : Interruption

inductive Ending (E : Type) where
  | done
  | failed (error : E)
  | crashed
  deriving DecidableEq

section

variable {E : Type} (failure : DiskOp → String → E)

/-- Run disk operations in turn, up to the cut. A process may still die after the last one. -/
def runOps : List DiskOp → Option Cut → Disk → Ending E × Disk
  | [], some ⟨0, _, .crash⟩, disk => (.crashed, disk)
  | [], _, disk => (.done, disk)
  | op :: ops, none, disk => runOps ops none (op.run disk)
  | _ :: _, some ⟨0, left, .crash⟩, disk => (.crashed, { disk with tmp := left })
  | op :: _, some ⟨0, left, .failure e⟩, disk => (.failed (failure op e), { disk with tmp := left })
  | op :: ops, some ⟨n + 1, left, cause⟩, disk => runOps ops (some ⟨n, left, cause⟩) (op.run disk)

/-- The disk after all operations. -/
def completeOps (ops : List DiskOp) (disk : Disk) : Disk :=
  ops.foldl (fun disk op => op.run disk) disk

variable {failure}

lemma file_run {op : DiskOp} (h : op ≠ .rename) (disk : Disk) : (op.run disk).file = disk.file := by
  cases op <;> first | rfl | exact absurd rfl h

/-- Operations that rename nothing leave the file alone, wherever they are cut. -/
theorem file_runOps {ops : List DiskOp} (h : .rename ∉ ops) (cut : Option Cut) (disk : Disk) :
    (runOps failure ops cut disk).2.file = disk.file := by
  induction ops generalizing cut disk with
  | nil => rcases cut with _ | ⟨_ | n, left, _ | e⟩ <;> rfl
  | cons op ops ih =>
    rw [List.mem_cons, not_or] at h
    have hrun := file_run (Ne.symm h.1) disk
    rcases cut with _ | ⟨_ | n, left, _ | e⟩ <;>
      first
      | rfl
      | exact (ih h.2 _ (op.run disk)).trans hrun

/-- How a replacement may end, and what the file then holds. -/
inductive Replaced (old : Option ByteArray) (bytes : ByteArray) :
    Ending E → Option ByteArray → Prop where
  | done : Replaced old bytes .done (some bytes)
  | failed (error : E) : Replaced old bytes (.failed error) old
  | crashedBefore : Replaced old bytes .crashed old
  | crashedAfter : Replaced old bytes .crashed (some bytes)

/-- A temporary file that is written first and renamed last replaces the file at once. -/
theorem replaced_runOps {ops : List DiskOp} (h : .rename ∉ ops) {disk : Disk} {bytes : ByteArray}
    (htmp : (completeOps ops disk).tmp = some bytes) (cut : Option Cut) :
    Replaced disk.file bytes (runOps failure (ops ++ [.rename]) cut disk).1
      (runOps failure (ops ++ [.rename]) cut disk).2.file := by
  induction ops generalizing cut disk with
  | nil =>
    have hrename : DiskOp.rename.run disk = ⟨some bytes, none⟩ := by
      have htmp : disk.tmp = some bytes := htmp
      rw [DiskOp.run, htmp]
    rcases cut with _ | ⟨_ | _ | n, left, _ | e⟩ <;>
      simp only [List.nil_append, runOps, hrename] <;> constructor
  | cons op ops ih =>
    rw [List.mem_cons, not_or] at h
    have hrun := file_run (Ne.symm h.1) disk
    have hnext : (completeOps ops (op.run disk)).tmp = some bytes := htmp
    have hrest := fun cut => ih h.2 hnext cut
    rw [hrun] at hrest
    rcases cut with _ | ⟨_ | n, left, _ | e⟩ <;>
      first
      | exact hrest _
      | constructor

/-- How a run ends does not depend on the disk. -/
lemma ending_runOps (ops : List DiskOp) (cut : Option Cut) (disk disk' : Disk) :
    (runOps failure ops cut disk).1 = (runOps failure ops cut disk').1 := by
  induction ops generalizing cut disk disk' with
  | nil => rcases cut with _ | ⟨_ | n, left, _ | e⟩ <;> rfl
  | cons op ops ih =>
    rcases cut with _ | ⟨_ | n, left, _ | e⟩ <;>
      first
      | rfl
      | exact ih _ (op.run disk) (op.run disk')

/-- Only a cut that is a failure makes a run fail. -/
lemma ending_runOps_ne_failed (ops : List DiskOp) {cut : Option Cut}
    (h : ∀ c ∈ cut, c.cause = .crash) (disk : Disk) (error : E) :
    (runOps failure ops cut disk).1 ≠ .failed error := by
  induction ops generalizing cut disk with
  | nil => rcases cut with _ | ⟨_ | n, left, _ | e⟩ <;> simp [runOps]
  | cons op ops ih =>
    rcases cut with _ | ⟨_ | n, left, _ | e⟩
    · exact ih (by simp) (op.run disk)
    · simp [runOps]
    · cases h _ rfl
    · exact ih (by simp) (op.run disk)
    · cases h _ rfl

/-- What the temporary file held at first makes no difference to the file. -/
theorem file_runOps_congr {ops : List DiskOp} (h : .rename ∉ ops) {disk disk' : Disk}
    (hfile : disk.file = disk'.file)
    (htmp : (completeOps ops disk).tmp = (completeOps ops disk').tmp) (cut : Option Cut) :
    (runOps failure (ops ++ [.rename]) cut disk).2.file =
      (runOps failure (ops ++ [.rename]) cut disk').2.file := by
  induction ops generalizing cut disk disk' with
  | nil =>
    have hsame : disk.tmp = disk'.tmp := htmp
    have hrename : (DiskOp.rename.run disk).file = (DiskOp.rename.run disk').file := by
      simp only [DiskOp.run, ← hsame]
      cases disk.tmp with
      | none => exact hfile
      | some bytes => rfl
    rcases cut with _ | ⟨_ | _ | n, left, _ | e⟩ <;>
      first
      | exact hrename
      | exact hfile
  | cons op ops ih =>
    rw [List.mem_cons, not_or] at h
    have hrun : (op.run disk).file = (op.run disk').file := by
      rw [file_run (Ne.symm h.1), file_run (Ne.symm h.1), hfile]
    rcases cut with _ | ⟨_ | n, left, _ | e⟩ <;>
      first
      | exact ih h.2 hrun htmp _
      | exact hfile

end
end Lib
