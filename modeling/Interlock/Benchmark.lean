import Interlock.Instruction

/-! # Benchmark kernels

Synthetic streams whose padding is known. Each of the standard benchmarks exercises one family of
hazards on one target and documents how many wait states it needs there.
-/

namespace Interlock

/-- A stream for a target, with the padding that it needs there. -/
structure Benchmark where
  name : String
  description : String
  target : String
  kernel : List Instruction
  expectedPadding : Int64

/-- A name that no benchmark has. -/
structure UnknownBenchmark where
  name : String
deriving DecidableEq, Repr

/-- The wording of an unknown benchmark name. -/
def UnknownBenchmark.message (e : UnknownBenchmark) : String :=
  "unknown benchmark " ++ Text.quote e.name

namespace Benchmark

/-- The two accumulators of the tile at work on the factors of step `i`. -/
def tileStep (i : Nat) : List Instruction :=
  let a := Register.vector (4 * Int64.ofNat (i % 4)) 2
  let b := Register.vector (4 * Int64.ofNat (i % 4) + 2) 2
  let acc0 := Register.vector 32 16
  let acc1 := Register.vector 48 16
  [.mfma "v_mfma_f32_32x32x8f16" 16 acc0 a b acc0, .mfma "v_mfma_f32_32x32x8f16" 16 acc1 a b acc1]

/-- Converts sixteen results that start at vector register `source`. -/
def tileEpilogue (target source : Int64) : List Instruction :=
  (List.range 16).map fun i =>
    .valu "v_cvt_f16_f32" (.vector (target + Int64.ofNat i) 1) [.vector (source + Int64.ofNat i) 1]

/-- `k` steps of a matrix product over two accumulators, and the conversion of both. -/
def gemmTile (k : Nat) : List Instruction :=
  (List.range k).flatMap tileStep ++ tileEpilogue 64 32 ++ tileEpilogue 80 48

/-- A number of steps for which no buffer can be reserved. -/
structure BufferRefused where
  steps : Int64
deriving DecidableEq, Repr

/-- The wording of a refused buffer. -/
def BufferRefused.message (_ : BufferRefused) : String :=
  "runtime error: makeslice: cap out of range"

/-- The tile of `k` steps, for any word `k`; a negative number of steps means none. The tile is
built in a buffer with two places for each step and 32 for the conversion, of 112 bytes each, and a
buffer of negative size or of more than 48 bits of address is refused. -/
def gemmTileIn (k : Int64) : Except BufferRefused (List Instruction) :=
  let places := 2 * k + 32
  if places < 0 ∨ Int.pow 2 48 < places.toInt * 112 then .error ⟨k⟩
  else .ok (gemmTile k.toNatClampNeg)

/-- `n` tiles of four steps each. -/
def gemmLoop (n : Nat) : List Instruction :=
  (List.replicate n (gemmTile 4)).flatten

def accumulateChain908 : Benchmark where
  name := "accumulate_chain_908"
  description := "8 chained 16-pass MFMAs, 16 accvgpr reads - XDL write on the first read"
  target := "gfx908"
  kernel :=
    let acc := Register.accumulation 0 16
    ((List.range 8).map fun k =>
      .mfma "v_mfma_f32_32x32x8f16" 16 acc (.vector (2 * Int64.ofNat k) 2)
        (.vector (16 + 2 * Int64.ofNat k) 2) acc) ++
    (List.range 16).map fun i =>
      .accRead (.vector (40 + Int64.ofNat i) 1) (.accumulation (Int64.ofNat i) 1)
  expectedPadding := 18

def gemmTile942 : Benchmark where
  name := "gemm_tile_942"
  description := "4 K-steps over 2 accumulators, 32 VALU reads - XDL write on the first read"
  target := "gfx942"
  kernel := gemmTile 4
  expectedPadding := 18

def addendOverwrite942 : Benchmark where
  name := "srcc_overwrite_942"
  description := "8-pass MFMA, VALU write to SrcC (7), VALU read of the result (3)"
  target := "gfx942"
  kernel :=
    [.mfma "v_mfma_f32_16x16x16f16" 8 (.vector 20 4) (.vector 0 2) (.vector 2 2) (.vector 10 4),
      .valu "v_mov_b32" (.vector 10 1) [.vector 50 1],
      .valu "v_cvt_f16_f32" (.vector 60 1) [.vector 20 1]]
  expectedPadding := 10

def scalarSetup90a : Benchmark where
  name := "scalar_setup_90a"
  description := "M0 -> LDS (1), VALU SGPR -> VMEM (5), v_cmpx EXEC -> MFMA (4)"
  target := "gfx90a"
  kernel :=
    [.new .salu "s_mov_b32" [.m0] [.scalar 0 1],
      .new .lds "ds_read_b32" [.vector 1 1] [.vector 0 1, .m0],
      .new .valu "v_readfirstlane_b32" [.scalar 4 1] [.vector 0 1],
      .new .vmemLoad "buffer_load_dword" [.vector 30 1] [.vector 2 1, .scalar 4 4],
      .new .compareExec "v_cmpx_gt_u32" [.exec] [.vector 3 1, .vector 4 1],
      .mfma "v_mfma_f32_32x32x4f16" 8 (.accumulation 0 16) (.vector 8 2) (.vector 10 2)
        (.accumulation 0 16)]
  expectedPadding := 10

def gemmTile1100 : Benchmark where
  name := "gemm_tile_1100"
  description := "GEMM tile on a target without matrix-core hazards"
  target := "gfx1100"
  kernel := gemmTile 4
  expectedPadding := 0

/-- The standard benchmarks. -/
def standard : List Benchmark :=
  [accumulateChain908, gemmTile942, addendOverwrite942, scalarSetup90a, gemmTile1100]

/-- The standard benchmark of a name. -/
def named (name : String) : Except UnknownBenchmark Benchmark :=
  match standard.find? (·.name == name) with
  | some b => .ok b
  | none => .error ⟨name⟩

end Benchmark

end Interlock
