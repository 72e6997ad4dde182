import Hotplug.Proofs.Node.Mishap
import Mathlib.Algebra.Group.Nat.Defs

/-!
# How full a volume is

The counts of a file system have 64 bits and no sign. They are taken for numbers with a sign and
multiplied as such. For a file system of less than `2 ^ 63` bytes and inodes nothing is lost by
that, and what is in use and what is available are parts of the whole.

## Main definitions

* `Files.Space.bytesOf`, `Files.Space.Sound` — the bytes of some blocks, and counts that go
  together, of a file system that is not too large.

## Main results

* `usageOf_exact` — **what is told of a file system are its counts.**
* `usageOf_within` — what is in use and what is available go into the whole.
* `runOn_stats` — **what is told of a volume on the node in memory**, which stays as it is.
-/

namespace Hotplug

/-! ### Numbers with a sign and without -/

namespace Width

/-- A number of 63 bits is the same with a sign. -/
theorem toInt_toInt64 {n : UInt64} (h : n.toNat < 2 ^ 63) : n.toInt64.toInt = n.toNat := by
  have hlt : 2 * n.toBitVec.toNat < 2 ^ 64 := by
    change 2 * n.toNat < 2 ^ 64
    omega
  exact BitVec.toInt_eq_toNat_of_lt hlt

/-- So is a product that has 63 bits. -/
theorem toInt_toInt64_mul {n m : UInt64} (hn : n.toNat < 2 ^ 63) (hm : m.toNat < 2 ^ 63)
    (h : n.toNat * m.toNat < 2 ^ 63) :
    (n.toInt64 * m.toInt64).toInt = (n.toNat * m.toNat : Nat) := by
  rw [Int64.toInt_mul, toInt_toInt64 hn, toInt_toInt64 hm, ← Int.natCast_mul]
  exact Int.bmod_eq_of_le (by omega) (by omega)

/-- A difference is not cut off where neither it nor what is taken away is negative. -/
theorem toInt_sub_of_le {x y : Int64} (hy : 0 ≤ y.toInt) (hle : y.toInt ≤ x.toInt) :
    (x - y).toInt = x.toInt - y.toInt := by
  have hx := x.toInt_lt
  rw [Int64.toInt_sub]
  exact Int.bmod_eq_of_le (by omega) (by omega)

end Width

/-! ### The counts of a file system -/

namespace Files.Space

variable {s : Space}

/-- The bytes of some blocks of a file system. -/
def bytesOf (s : Space) (blocks : UInt64) : Nat :=
  blocks.toNat * s.fragmentSize.toNat

/-- Counts that go together: no more blocks and inodes are free than there are, and no more are
there for anybody than are free. All of them fit in 63 bits. -/
structure Sound (s : Space) : Prop where
  bytes : s.bytesOf s.blocks < 2 ^ 63
  blocks : s.blocks.toNat < 2 ^ 63
  fragment : s.fragmentSize.toNat < 2 ^ 63
  blocksFree : s.blocksFree.toNat ≤ s.blocks.toNat
  blocksAvailable : s.blocksAvailable.toNat ≤ s.blocksFree.toNat
  inodes : s.inodes.toNat < 2 ^ 63
  inodesFree : s.inodesFree.toNat ≤ s.inodes.toNat
  inodesAvailable : s.inodesAvailable.toNat ≤ s.inodesFree.toNat

theorem bytesOf_mono {n m : UInt64} (h : n.toNat ≤ m.toNat) : s.bytesOf n ≤ s.bytesOf m :=
  Nat.mul_le_mul_right _ h

/-- The bytes of some of the blocks are reckoned as they are. -/
theorem Sound.toInt_bytes (h : s.Sound) {n : UInt64} (hn : n.toNat ≤ s.blocks.toNat) :
    (n.toInt64 * s.fragmentSize.toInt64).toInt = s.bytesOf n :=
  Width.toInt_toInt64_mul (Nat.lt_of_le_of_lt hn h.blocks) h.fragment
    (Nat.lt_of_le_of_lt (bytesOf_mono hn) h.bytes)

end Files.Space

namespace Node

open Files.Space (bytesOf_mono)
open Host (step)
open Width (toInt_toInt64 toInt_sub_of_le)

/-- **What is told of a file system are its counts**: the bytes of its blocks, and its inodes. -/
theorem usageOf_exact {s : Files.Space} (h : s.Sound) :
    (usageOf s).map (fun u => (u.measure, u.total.toInt, u.available.toInt, u.used.toInt)) =
      [(.bytes, (s.bytesOf s.blocks : Int), (s.bytesOf s.blocksAvailable : Int),
          (s.bytesOf s.blocks : Int) - s.bytesOf s.blocksFree),
        (.inodes, (s.inodes.toNat : Int), (s.inodesAvailable.toNat : Int),
          (s.inodes.toNat : Int) - s.inodesFree.toNat)] := by
  have hbytes := h.toInt_bytes (Nat.le_refl _)
  have hbytesFree := h.toInt_bytes h.blocksFree
  have hbytesAvailable := h.toInt_bytes (Nat.le_trans h.blocksAvailable h.blocksFree)
  have hbytesUsed : (s.blocks.toInt64 * s.fragmentSize.toInt64 -
      s.blocksFree.toInt64 * s.fragmentSize.toInt64).toInt =
        (s.bytesOf s.blocks : Int) - s.bytesOf s.blocksFree := by
    have hle := bytesOf_mono (s := s) h.blocksFree
    rw [toInt_sub_of_le (by omega) (by omega), hbytes, hbytesFree]
  have hinodes := toInt_toInt64 h.inodes
  have hinodesFree := toInt_toInt64 (Nat.lt_of_le_of_lt h.inodesFree h.inodes)
  have hinodesAvailable := toInt_toInt64 (Nat.lt_of_le_of_lt h.inodesAvailable
    (Nat.lt_of_le_of_lt h.inodesFree h.inodes))
  have hinodesUsed : (s.inodes.toInt64 - s.inodesFree.toInt64).toInt =
      (s.inodes.toNat : Int) - s.inodesFree.toNat := by
    have hle := h.inodesFree
    rw [toInt_sub_of_le (by omega) (by omega), hinodes, hinodesFree]
  simp only [usageOf, List.map_cons, List.map_nil, hbytes, hbytesAvailable, hbytesUsed, hinodes,
    hinodesAvailable, hinodesUsed]

/-- What is in use and what is available go into the whole. -/
theorem usageOf_within {s : Files.Space} (h : s.Sound) :
    ∀ u ∈ usageOf s, 0 ≤ u.used.toInt ∧ 0 ≤ u.available.toInt ∧
      u.used.toInt + u.available.toInt ≤ u.total.toInt := by
  intro u hu
  have hmem := List.mem_map_of_mem
    (f := fun u => (u.measure, u.total.toInt, u.available.toInt, u.used.toInt)) hu
  rw [usageOf_exact h, List.mem_cons, List.mem_singleton] at hmem
  simp only [Prod.mk.injEq] at hmem
  rcases hmem with ⟨-, htotal, havailable, hused⟩ | ⟨-, htotal, havailable, hused⟩
  · have hfree := bytesOf_mono (s := s) h.blocksFree
    have hfew := bytesOf_mono (s := s) h.blocksAvailable
    omega
  · have hfree := h.inodesFree
    have hfew := h.inodesAvailable
    omega

example :
    (usageOf
      { fragmentSize := 4096, blocks := 100, blocksFree := 40, blocksAvailable := 30,
        inodes := 9, inodesFree := 4, inodesAvailable := 4 }).map (·.used) = [245760, 5] := by
  decide

/-! ### The node in memory -/

variable {volumeId path : String} {s : Host.State}

/-- What a path leads to is found where it is opened. -/
theorem exists_openFile {t : FileTree} {e : Entry} (h : t.kind path = .ok e) :
    ∃ place, t.openFile path = .ok place ∧ t.lookup? place = some e := by
  obtain ⟨place, hplace, hfound⟩ := bind_eq_ok_iff.1 h
  cases hlook : t.lookup? place with
  | none =>
    rw [hlook] at hfound
    cases hfound
  | some found =>
    rw [hlook] at hfound
    obtain rfl := Except.ok.inj hfound
    refine ⟨place, bind_eq_ok_iff.2 ⟨place, hplace, ?_⟩, hlook⟩
    rw [hlook]
    rfl

/-- What is told of what a path leads to: the size of a block device, and the counts of the file
system that anything else is on, which are zero in memory. -/
def usageAt : Entry → List Usage
  | .blockDevice size =>
    [{ measure := .bytes, total := size.toUInt64.toInt64, available := 0, used := 0 }]
  | _ => usageOf {}

/-- The size of a block device is how far its end is from its start. -/
theorem runOn_deviceUsage {size : Nat} (hkind : s.files.kind path = .ok (.blockDevice size)) :
    runOn step (deviceUsage path) s = (.ok (usageAt (.blockDevice size)), s) := by
  obtain ⟨place, hplace, hdevice⟩ := exists_openFile hkind
  have hopened : runOn step (Host.file ("open " ++ path) (.openFile path)) s =
      (.ok ⟨place⟩, s) := by
    rw [runOn_file, Files.step, hplace]
    rfl
  have hend : runOn step (Host.file ("size " ++ path) (.seekEnd ⟨place⟩)) s =
      (.ok size.toUInt64, s) := by
    rw [runOn_file, Files.step, FileTree.endAt, hdevice]
    rfl
  exact (runOn_bind_ok hopened).trans (runOn_bind_ok hend)

/-- **What is told of a volume on the node in memory**: that it is missing, where the path leads to
nothing, or else how full what is there is. The node stays as it is. -/
theorem runOn_stats (hid : volumeId ≠ "") (hpath : path ≠ "") :
    runOn step (stats volumeId path) s =
      (match s.files.kind path with
        | .error _ => .error (.notFound "volume path" path)
        | .ok e => .ok (usageAt e), s) := by
  unfold stats require
  rw [if_neg (by simpa using hid), if_neg (by simpa using hpath)]
  have hexists : runOn step (Host.pathExists path) s =
      (.ok (s.files.kind path).toOption.isSome, s) := rfl
  refine (runOn_bind_ok hexists).trans ?_
  cases hkind : s.files.kind path with
  | error e => rfl
  | ok e =>
    have hstat : runOn step (Host.file ("stat " ++ path) (.stat path)) s =
        (.ok (Files.Kind.ofEntry e), s) := by
      rw [runOn_file, Files.step, hkind]
      rfl
    have hcounts : runOn step (Host.file ("statvfs " ++ path) (.statvfs path)) s =
        (.ok {}, s) := by
      rw [runOn_file, Files.step, hkind]
      rfl
    refine (runOn_bind_ok hstat).trans ?_
    cases e with
    | blockDevice size => exact runOn_deviceUsage hkind
    | directory => exact runOn_bind_ok hcounts
    | file size => exact runOn_bind_ok hcounts
    | link target => exact runOn_bind_ok hcounts

end Node

end Hotplug
