/-
The PEM writer of `oc_certs.c`: what `oc_certs_serialize_to_pem` and `oc_certs_serialize_chain_to_pem` leave in a buffer,
and for which lengths of the certificates and of the buffer that is the text of the chain.
-/
import SmartGarage.Api.Base64RoundTrip
import SmartGarage.Lib.Search
import SmartGarage.Lib.TextLines
import Mathlib.Tactic.Ring
import Mathlib.Tactic.Tauto

namespace SmartGarage

open TextLines

/-! ## The writer -/

/-- An object in memory. Offsets into it are differences of pointers, which go up to `2 ^ 31 - 1`. -/
structure MemObject where
  bytes : OcString
  length_lt : bytes.length < 2 ^ 31

def pemBegin : OcString := ascii "-----BEGIN CERTIFICATE-----"

def pemEnd : OcString := ascii "-----END CERTIFICATE-----"

def crlf : OcString := [13, 10]

/-- `append_to_output`: `j` is the length of the output, and `ch` the count of the writer. -/
def appendToOutput (s : Writer UInt8) (x : UInt8) : Writer UInt8 := s.put 64 crlf x

/-- The loop over the input at the index `i`, with `val` and the output so far. -/
def pemLoop : Nat → UInt8 → Writer UInt8 → OcString → UInt8 × Writer UInt8
  | _, val, s, [] => (val, s)
  | i, val, s, b :: rest =>
    if i % 3 = 0 then pemLoop (i + 1) ((b <<< 4) &&& 0x30) (appendToOutput s (base64Char (b >>> 2))) rest
    else if i % 3 = 1 then pemLoop (i + 1) ((b <<< 2) &&& 0x3D) (appendToOutput s (base64Char (val ||| (b >>> 4)))) rest
    else
      pemLoop (i + 1) (b &&& 0x3F)
        (appendToOutput (appendToOutput s (base64Char (val ||| (b >>> 6)))) (base64Char (b &&& 0x3F))) rest

/-- `output_len` -/
def pemOutputLen (inputLen : Nat) : Nat :=
  let outputLen := base64Length inputLen
  outputLen + (outputLen + 63) / 64 * 2 + (pemBegin ++ crlf).length + (pemEnd ++ crlf).length

/-- The characters that are written, without the terminator. -/
def pemText (input : OcString) : OcString :=
  let (val, s) := pemLoop 0 0 ⟨pemBegin ++ crlf, 0⟩ input
  let s := if input.length % 3 ≠ 0 then appendToOutput s (base64Char val) else s
  let padding := pemOutputLen input.length - 2 - (pemEnd ++ crlf).length - s.output.length
  s.output ++ List.replicate padding 61 ++ crlf ++ (pemEnd ++ crlf)

/-- What becomes of a call: a write behind the end of the buffer, -1, or a number. -/
inductive PemOutcome
  | overrun
  | failed (buffer : OcString)
  | written (buffer : OcString) (ret : Nat)

/-- `oc_certs_serialize_to_pem` at the index `start` of the buffer. It writes one byte behind another, so that the terminator
is the last one to be written. -/
def ocCertsSerializeToPem (input buffer : OcString) (start outputBufferLen : Nat) : PemOutcome :=
  if outputBufferLen < pemOutputLen input.length then .failed buffer
  else
    let text := pemText input
    if start + text.length < buffer.length then .written (Memory.write buffer start (text ++ [0])) text.length
    else .overrun

/-- The loop of `oc_certs_serialize_chain_to_pem`, with the `buffer_len` that is left. -/
def serializeChainLoop : List MemObject → OcString → Nat → PemOutcome
  | [], buffer, _ => .written buffer (cstr buffer).length
  | cert :: next, buffer, bufferLen =>
    match ocCertsSerializeToPem cert.bytes buffer ((buffer.length + 2 ^ 32 - bufferLen) % 2 ^ 32) bufferLen with
    | .written buffer _ => serializeChainLoop next buffer ((bufferLen + 2 ^ 32 - (cstr buffer).length) % 2 ^ 32)
    | outcome => outcome

/-- `oc_certs_serialize_chain_to_pem` on the `raw` of the certificates of a chain. -/
def ocCertsSerializeChainToPem (chain : List MemObject) (outputBuffer : MemObject) : PemOutcome :=
  serializeChainLoop chain outputBuffer.bytes outputBuffer.bytes.length

/-! ## Texts of a chain -/

/-- The lines of a certificate with the lines of its Base64 text. -/
def pemBlock (lines : List OcString) : List OcString := pemBegin :: lines ++ [pemEnd]

/-- Lines of Base64 characters, none of them empty, that are decoded to some bytes. -/
structure PemLines (der : OcString) (lines : List OcString) : Prop where
  nonempty : [] ∉ lines
  width : ∀ line ∈ lines, line.length ≤ 64
  alphabet : ∀ line ∈ lines, ∀ ch ∈ line, ch ∈ base64Alphabet ∨ ch = 61
  decoded : ocBase64Decode lines.flatten = some der

/-- The text of a chain: a block for each certificate, in the order of the chain. -/
def IsPem (chain : List MemObject) (text : OcString) : Prop :=
  ∃ blocks, List.Forall₂ (fun (cert : MemObject) lines => PemLines cert.bytes lines) chain blocks ∧
    text = joined crlf (blocks.flatMap pemBlock)

/-- Nothing is written behind the end of the buffer, and unless -1 is returned there is the text of the chain, of the length
that is returned, with a zero behind it. -/
def Serialized (chain : List MemObject) : PemOutcome → Prop
  | .overrun => False
  | .failed _ => True
  | .written buffer ret => ∃ text behind, buffer = text ++ 0 :: behind ∧ 0 ∉ text ∧ ret = text.length ∧ IsPem chain text

/-! ## When it is written -/

/-- The lengths of the certificates of a chain. -/
def lengths (chain : List MemObject) : List Nat := chain.map (·.bytes.length)

/-- The characters of a block as it is written: a line that is complete has its ending already when the last line is ended. -/
def pemLength (inputLen : Nat) : Nat := pemOutputLen inputLen + if inputLen % 48 = 0 then 2 else 0

/-- Where the block of the certificate `k` begins. The text from the beginning of the buffer is counted each time, and the
second terminator stays in it. -/
def pemStart (first second : Nat) (k : Nat) : Nat := k * first + (k - 1) * second

/-- The room that is left behind a place, as it is computed. -/
def pemRoom (size start : Nat) : Nat := (2 ^ 32 + size - start) % 2 ^ 32

/-- A certificate is found to be too long for the room, and those in front of it have been written to the buffer. -/
def Refused (size : Nat) (start : Nat → Nat) (lens : List Nat) : Prop :=
  ∃ k n, lens[k]? = some n ∧ pemRoom size (start k) < pemOutputLen n ∧
    ∀ i m, i < k → lens[i]? = some m → start i + pemLength m < size

/-- Either -1 is returned before anything else goes wrong, or there are at most two certificates, none of a length that makes
the last line complete, and each has room for the terminator too. -/
def PemFits (lens : List Nat) (size : Nat) : Prop :=
  let start := pemStart (pemLength (lens.getD 0 0)) (pemLength (lens.getD 1 0))
  Refused size start lens ∨
    (lens.length ≤ 2 ∧ (∀ n ∈ lens, n % 48 ≠ 0) ∧ ∀ i n, lens[i]? = some n → start i + pemLength n < size)

/-! ## The lines of a block -/

theorem pemLoop_eq (s : Writer UInt8) : ∀ (input : OcString) (i : Nat) (val : UInt8) (out : OcString),
    pemLoop i val (out.foldl appendToOutput s) input =
      ((base64EncodeLoop i val out input).1, (base64EncodeLoop i val out input).2.foldl appendToOutput s)
  | [], _, _, _ => rfl
  | b :: rest, i, val, out => by
    unfold pemLoop base64EncodeLoop
    split
    · rw [← pemLoop_eq s rest, List.foldl_append]
      rfl
    · split
      · rw [← pemLoop_eq s rest, List.foldl_append]
        rfl
      · rw [← pemLoop_eq s rest, List.foldl_append]
        rfl

/-- The text without the padding. -/
def base64Body (input : OcString) : OcString :=
  let (val, out) := base64EncodeLoop 0 0 [] input
  if input.length % 3 ≠ 0 then out ++ [base64Char val] else out

/-- How much padding there is. -/
def base64Padding (inputLen : Nat) : Nat := if inputLen % 3 ≠ 0 then 3 - inputLen % 3 else 0

section

variable (input : OcString)

theorem base64Body_padding :
    base64Body input ++ List.replicate (base64Padding input.length) 61 = base64Groups input := by
  have h := base64EncodeLoop_groups input 0 0 []
  simpa [base64Body, base64Padding] using h

theorem length_base64Body : (base64Body input).length + base64Padding input.length = base64Length input.length := by
  rw [← base64Groups_length, ← base64Body_padding, List.length_append, List.length_replicate]

theorem pemText_eq : pemText input =
    let s := (base64Body input).foldl appendToOutput ⟨pemBegin ++ crlf, 0⟩
    s.output ++ List.replicate (pemOutputLen input.length - 2 - (pemEnd ++ crlf).length - s.output.length) 61 ++ crlf ++
      (pemEnd ++ crlf) := by
  have hloop := pemLoop_eq ⟨pemBegin ++ crlf, 0⟩ input 0 0 []
  unfold pemText base64Body
  rw [List.foldl_nil] at hloop
  rw [hloop]
  dsimp only
  split
  · rw [List.foldl_append]
    rfl
  · rfl

/-- What is written: a block, with an empty line if the last line was complete. -/
structure WrittenLines (input : OcString) (lines : List OcString) : Prop where
  text : pemText input = joined crlf (pemBlock lines)
  width : ∀ line ∈ lines, line.length ≤ 64
  groups : lines.flatten = base64Groups input
  empty : [] ∈ lines ↔ input.length % 48 = 0
  length : (pemText input).length = pemLength input.length

/-- The last line of a body: it has room for the padding, and it is empty without any if the one before it is complete. -/
theorem lastLine_arith {n body full part : Nat} (hbody : body + base64Padding n = base64Length n)
    (hchars : body = 64 * full + part) (hpart : part < 64) :
    part + base64Padding n ≤ 64 ∧ (part + base64Padding n = 0 ↔ n % 48 = 0) ∧
      pemOutputLen n - 29 - (29 + body + body / 64 * 2) = base64Padding n ∧
      29 + body + body / 64 * 2 + base64Padding n + 29 = pemLength n := by
  have houtput : pemOutputLen n = base64Length n + (base64Length n + 63) / 64 * 2 + 29 + 27 := rfl
  unfold pemLength
  rw [houtput]
  by_cases hthird : n % 3 = 0
  · have hlength : base64Length n = n / 3 * 4 + 0 := by rw [base64Length, if_neg (not_not.2 hthird)]
    have hpadding : base64Padding n = 0 := if_neg (not_not.2 hthird)
    by_cases hlast : n % 48 = 0
    · rw [if_pos hlast]
      omega
    · rw [if_neg hlast]
      omega
  · have hlength : base64Length n = n / 3 * 4 + 4 := by rw [base64Length, if_pos hthird]
    have hpadding : base64Padding n = 3 - n % 3 := if_pos hthird
    rw [if_neg (show n % 48 ≠ 0 by omega)]
    omega

theorem exists_writtenLines : ∃ lines, WrittenLines input lines := by
  have hempty : (⟨pemBegin ++ crlf, 0⟩ : Writer UInt8).count = 0 := rfl
  obtain ⟨full, part, h⟩ := @exists_wraps _ 64 crlf _ (by decide) (base64Body input) hempty
  obtain ⟨hwidth, hempty, hpadding, hlength⟩ := lastLine_arith (length_base64Body input) h.length_chars h.part
  have hout : _ = 29 + _ + _ * 2 := h.length_output
  have hlast : (part ++ List.replicate (base64Padding input.length) 61 : OcString).length =
      part.length + base64Padding input.length := by rw [List.length_append, List.length_replicate]
  have hpadded : pemText input = ((base64Body input).foldl (Writer.put 64 crlf) ⟨pemBegin ++ crlf, 0⟩).output ++
      List.replicate (base64Padding input.length) 61 ++ crlf ++ (pemEnd ++ crlf) := by
    have hend : pemOutputLen input.length - 2 - (pemEnd ++ crlf).length = pemOutputLen input.length - 29 := Nat.sub_sub _ 2 27
    rw [pemText_eq, hend]
    unfold appendToOutput
    dsimp only
    rw [hout, hpadding]
  refine ⟨full ++ [part ++ List.replicate (base64Padding input.length) 61], ?_, ?_, ?_, ?_, ?_⟩
  · rw [hpadded, h.output]
    simp [pemBlock]
  · intro line hline
    rcases List.mem_append.1 hline with hline | hline
    · exact (h.full line hline).le
    · rw [List.mem_singleton.1 hline, hlast]
      exact hwidth
  · rw [← base64Body_padding, List.flatten_append, ← h.chars]
    simp
  · have hfull : [] ∉ full := fun hmem => absurd (h.full [] hmem) (by simp)
    rw [List.mem_append, List.mem_singleton, or_iff_right hfull, ← hempty, ← hlast, eq_comm, List.length_eq_zero_iff]
  · rw [← hlength, hpadded, List.length_append, List.length_append, List.length_append, List.length_replicate, hout]
    rfl

theorem length_pemText : (pemText input).length = pemLength input.length := by
  obtain ⟨lines, h⟩ := exists_writtenLines input
  exact h.length

end

/-! ## Blocks -/

/-- Lines of Base64 characters. -/
def Base64Lines (lines : List OcString) : Prop := ∀ line ∈ lines, ∀ ch ∈ line, ch ∈ base64Alphabet ∨ ch = 61

theorem base64_ne {ch : UInt8} (h : ch ∈ base64Alphabet ∨ ch = 61) : ch ≠ 13 ∧ ch ≠ 45 ∧ ch ≠ 0 := by
  have hall : ((base64Alphabet ++ [61]).all fun ch => decide (ch ≠ 13 ∧ ch ≠ 45 ∧ ch ≠ 0)) = true := by decide
  have hmem : ch ∈ base64Alphabet ++ [61] := by simpa using h
  exact of_decide_eq_true (List.all_eq_true.1 hall ch hmem)

theorem WrittenLines.base64Lines {input : OcString} {lines : List OcString} (h : WrittenLines input lines) :
    Base64Lines lines := fun line hline ch hch =>
  base64Groups_alphabet input ch (h.groups ▸ List.mem_flatten.2 ⟨line, hline, hch⟩)

section Blocks

variable {blocks blocks' : List (List OcString)}

theorem mem_blocks (h : ∀ lines ∈ blocks, Base64Lines lines) {line : OcString} (hline : line ∈ blocks.flatMap pemBlock) :
    13 ∉ line ∧ 0 ∉ line := by
  obtain ⟨lines, hlines, hmem⟩ := List.mem_flatMap.1 hline
  rcases List.mem_append.1 hmem with hmem | hmem
  · rcases List.mem_cons.1 hmem with rfl | hmem
    · decide
    · exact ⟨fun hch => (base64_ne (h lines hlines line hmem 13 hch)).1 rfl,
        fun hch => (base64_ne (h lines hlines line hmem 0 hch)).2.2 rfl⟩
  · rw [List.mem_singleton.1 hmem]
    decide

theorem count_blocks (h : ∀ lines ∈ blocks, Base64Lines lines) :
    (blocks.flatMap pemBlock).count pemBegin = blocks.length := by
  induction blocks with
  | nil => rfl
  | cons lines blocks ih =>
    have hnot : pemBegin ∉ lines := fun hmem => (base64_ne (h lines List.mem_cons_self pemBegin hmem 45 (by decide))).2.1 rfl
    have hend : pemBegin ∉ [pemEnd] := by decide
    rw [List.flatMap_cons, List.count_append, ih fun l hl => h l (List.mem_cons_of_mem _ hl), pemBlock, List.cons_append,
      List.count_cons_self, List.count_append, List.count_eq_zero_of_not_mem hnot, List.count_eq_zero_of_not_mem hend,
      List.length_cons]
    omega

theorem blocks_injective (h : ∀ lines ∈ blocks, Base64Lines lines) (h' : ∀ lines ∈ blocks', Base64Lines lines)
    (heq : joined crlf (blocks.flatMap pemBlock) = joined crlf (blocks'.flatMap pemBlock)) :
    blocks.flatMap pemBlock = blocks'.flatMap pemBlock :=
  joined_injective (fun _ hline => (mem_blocks h hline).1) (fun _ hline => (mem_blocks h' hline).1) heq

theorem empty_mem_blocks : [] ∈ blocks.flatMap pemBlock ↔ ∃ lines ∈ blocks, [] ∈ lines := by
  have hbegin : ([] : OcString) ≠ pemBegin := by decide
  have hend : ([] : OcString) ≠ pemEnd := by decide
  simp [pemBlock, hbegin, hend]

end Blocks

/-! ## Texts that are written -/

/-- The blocks that are written for some certificates. -/
def pemTexts (chain : List MemObject) : OcString := chain.flatMap fun cert => pemText cert.bytes

theorem exists_writtenBlocks (chain : List MemObject) :
    ∃ blocks, List.Forall₂ (fun (cert : MemObject) lines => WrittenLines cert.bytes lines) chain blocks ∧
      pemTexts chain = joined crlf (blocks.flatMap pemBlock) := by
  induction chain with
  | nil => exact ⟨[], .nil, rfl⟩
  | cons cert chain ih =>
    obtain ⟨blocks, hblocks, htext⟩ := ih
    obtain ⟨lines, hlines⟩ := exists_writtenLines cert.bytes
    refine ⟨lines :: blocks, .cons hlines hblocks, ?_⟩
    rw [List.flatMap_cons, joined_append, ← htext, ← hlines.text]
    rfl

theorem zero_notMem_pemText (input : OcString) : 0 ∉ pemText input := by
  obtain ⟨lines, h⟩ := exists_writtenLines input
  have hbase : ∀ lines' ∈ [lines], Base64Lines lines' := List.forall_mem_singleton.2 h.base64Lines
  rw [h.text]
  intro hmem
  rcases mem_joined hmem with hmem | ⟨line, hline, hmem⟩
  · exact absurd hmem (by decide)
  · have hblocks : line ∈ [lines].flatMap pemBlock := by simpa using hline
    exact (mem_blocks hbase hblocks).2 hmem

theorem isPem_pemTexts {chain : List MemObject} (h : ∀ cert ∈ chain, cert.bytes.length % 48 ≠ 0) :
    IsPem chain (pemTexts chain) := by
  obtain ⟨blocks, hblocks, htext⟩ := exists_writtenBlocks chain
  refine ⟨blocks, ?_, htext⟩
  clear htext
  induction hblocks with
  | nil => exact .nil
  | cons hlines _ ih =>
    obtain ⟨hcert, hrest⟩ := List.forall_mem_cons.1 h
    refine .cons ⟨fun hmem => hcert (hlines.empty.1 hmem), hlines.width, hlines.base64Lines, ?_⟩ (ih hrest)
    rw [hlines.groups, ocBase64Decode_groups]

/-- What has been written for some certificates is the text of a chain only if it has as many, and no empty line. -/
theorem of_isPem_pemTexts {chain done : List MemObject} (h : IsPem chain (pemTexts done)) :
    chain.length = done.length ∧ ∀ cert ∈ done, cert.bytes.length % 48 ≠ 0 := by
  obtain ⟨blocks, hblocks, htext⟩ := h
  obtain ⟨blocks', hblocks', htext'⟩ := exists_writtenBlocks done
  have hbase : ∀ lines ∈ blocks, Base64Lines lines := Search.forall_mem_of_forall₂ hblocks fun _ _ h => h.alphabet
  have hbase' : ∀ lines ∈ blocks', Base64Lines lines := Search.forall_mem_of_forall₂ hblocks' fun _ _ h => h.base64Lines
  have heq := blocks_injective hbase hbase' (htext ▸ htext')
  constructor
  · rw [hblocks.length_eq, hblocks'.length_eq, ← count_blocks hbase, ← count_blocks hbase', heq]
  · have hnonempty : ∀ lines ∈ blocks, [] ∉ lines := Search.forall_mem_of_forall₂ hblocks fun _ _ h => h.nonempty
    have hnone : ∀ lines ∈ blocks', [] ∉ lines := by
      intro lines hlines hmem
      have hempty : [] ∈ blocks'.flatMap pemBlock := empty_mem_blocks.2 ⟨lines, hlines, hmem⟩
      rw [← heq] at hempty
      obtain ⟨lines, hlines, hmem⟩ := empty_mem_blocks.1 hempty
      exact hnonempty lines hlines hmem
    intro cert hcert hmod
    obtain ⟨lines, hlines, hwritten⟩ := Search.exists_mem_of_forall₂ hblocks' hcert
    exact hnone lines hlines (hwritten.empty.2 hmod)

theorem isPem_pemTexts_iff {chain : List MemObject} :
    IsPem chain (pemTexts chain) ↔ ∀ n ∈ lengths chain, n % 48 ≠ 0 := by
  rw [lengths, List.forall_mem_map]
  exact ⟨fun h => (of_isPem_pemTexts h).2, isPem_pemTexts⟩

/-! ## The loop -/

section Loop

variable {size start : Nat} {buffer : OcString} {cert : MemObject} {chain : List MemObject}

theorem pemRoom_start (hsize : size < 2 ^ 31) (hstart : start < 2 ^ 32) :
    (size + 2 ^ 32 - pemRoom size start) % 2 ^ 32 = start := by
  unfold pemRoom
  omega

theorem pemRoom_sub {n : Nat} (hsize : size < 2 ^ 31) (hstart : start ≤ size) (hn : n ≤ size) :
    (pemRoom size start + 2 ^ 32 - n) % 2 ^ 32 = pemRoom size (start + n) := by
  unfold pemRoom
  omega

theorem pemRoom_zero (hsize : size < 2 ^ 31) : pemRoom size 0 = size := by
  unfold pemRoom
  omega

theorem ocCertsSerializeToPem_eq {input : OcString} (start : Nat) {outputBufferLen : Nat}
    (h : ¬outputBufferLen < pemOutputLen input.length) : ocCertsSerializeToPem input buffer start outputBufferLen =
      if start + pemLength input.length < buffer.length then
        .written (Memory.write buffer start (pemText input ++ [0])) (pemLength input.length)
      else .overrun := by
  rw [ocCertsSerializeToPem, if_neg h, ← length_pemText]

/-- The step for a block. The next one is to begin behind it by the length of the text from the beginning of the buffer. -/
theorem serialized_cons {all : List MemObject} (hsize : buffer.length < 2 ^ 31) (hstart : start < 2 ^ 32) :
    Serialized all (serializeChainLoop (cert :: chain) buffer (pemRoom buffer.length start)) ↔
      pemRoom buffer.length start < pemOutputLen cert.bytes.length ∨
        (start + pemLength cert.bytes.length < buffer.length ∧
          let buffer' := Memory.write buffer start (pemText cert.bytes ++ [0])
          Serialized all (serializeChainLoop chain buffer' (pemRoom buffer.length (start + (cstr buffer').length)))) := by
  rw [serializeChainLoop, pemRoom_start hsize hstart]
  by_cases hroom : pemRoom buffer.length start < pemOutputLen cert.bytes.length
  · rw [ocCertsSerializeToPem, if_pos hroom]
    exact iff_of_true trivial (.inl hroom)
  · rw [ocCertsSerializeToPem_eq start hroom]
    by_cases hend : start + pemLength cert.bytes.length < buffer.length
    · rw [if_pos hend, or_iff_right hroom, and_iff_right hend]
      dsimp only
      rw [pemRoom_sub hsize (by omega)]
      refine (List.takeWhile_prefix _).length_le.trans (le_of_eq (Memory.length_write ?_))
      rw [List.length_append, length_pemText, List.length_singleton]
      omega
    · rw [if_neg hend, or_iff_right hroom]
      exact iff_of_false id fun h => hend h.1

theorem serialized_nil {all : List MemObject} {text : OcString} (htext : 0 ∉ text) (rest : OcString) (bufferLen : Nat) :
    Serialized all (serializeChainLoop [] (text ++ 0 :: rest) bufferLen) ↔ IsPem all text := by
  rw [serializeChainLoop, cstr_terminated htext]
  constructor
  · rintro ⟨text', rest', heq, hzero, -, hpem⟩
    obtain ⟨rfl, -⟩ := append_cons_inj htext hzero heq
    exact hpem
  · intro hpem
    exact ⟨text, rest, rfl, htext, rfl, hpem⟩

end Loop

/-! ## Running out of room -/

theorem refused_nil {size : Nat} {start : Nat → Nat} : ¬Refused size start [] := by
  rintro ⟨k, n, hk, -⟩
  simp at hk

theorem refused_cons {size n : Nat} {start : Nat → Nat} {lens : List Nat} : Refused size start (n :: lens) ↔
    pemRoom size (start 0) < pemOutputLen n ∨
      (start 0 + pemLength n < size ∧ Refused size (fun k => start (k + 1)) lens) := by
  constructor
  · rintro ⟨k, m, hk, hroom, hbefore⟩
    cases k with
    | zero =>
      cases Option.some.inj hk
      exact .inl hroom
    | succ k =>
      refine .inr ⟨hbefore 0 n (Nat.succ_pos k) rfl, k, m, hk, hroom, fun i m hi hm => ?_⟩
      exact hbefore (i + 1) m (Nat.succ_lt_succ hi) hm
  · rintro (hroom | ⟨hfirst, k, m, hk, hroom, hbefore⟩)
    · exact ⟨0, n, rfl, hroom, fun i m hi => absurd hi (Nat.not_lt_zero i)⟩
    · refine ⟨k + 1, m, hk, hroom, fun i m hi hm => ?_⟩
      cases i with
      | zero =>
        cases Option.some.inj hm
        exact hfirst
      | succ i => exact hbefore i m (Nat.lt_of_succ_lt_succ hi) hm

/-! ## Chains -/

/-- Behind the second block the text stays as it is, and a chain that goes on is written as it should be only if it is refused. -/
theorem serialized_behind {all : List MemObject} {text : OcString} (htext : 0 ∉ text) (hnot : ¬IsPem all text) :
    ∀ (chain : List MemObject) (rest : OcString) (start : Nat), (text ++ 0 :: rest).length < 2 ^ 31 →
      text.length < start → start < 2 ^ 32 →
      (Serialized all (serializeChainLoop chain (text ++ 0 :: rest) (pemRoom (text ++ 0 :: rest).length start)) ↔
        Refused (text ++ 0 :: rest).length (fun k => start + k * text.length) (lengths chain))
  | [], rest, start, _, _, _ => by
    rw [serialized_nil htext]
    exact iff_of_false hnot refused_nil
  | cert :: chain, rest, start, hsize, hbehind, hstart => by
    obtain ⟨k, rfl⟩ : ∃ k, start = (text ++ [0]).length + k := Nat.exists_eq_add_of_le (by rwa [List.length_append])
    have hwrite (cells : OcString) : Memory.write (text ++ 0 :: rest) ((text ++ [0]).length + k) cells =
        text ++ 0 :: Memory.write rest k cells := by
      rw [List.append_cons, Memory.write_append, ← List.append_cons]
    generalize (text ++ [0]).length + k = start at *
    have hstarts : (fun k => start + (k + 1) * text.length) = fun k => start + text.length + k * text.length := by
      funext k
      rw [Nat.succ_mul]
      omega
    rw [serialized_cons hsize hstart, lengths, List.map_cons, refused_cons, Nat.zero_mul, Nat.add_zero, hstarts]
    refine or_congr_right (and_congr_right fun hend => ?_)
    have hlength : (text ++ 0 :: Memory.write rest k (pemText cert.bytes ++ [0])).length =
        (text ++ 0 :: rest).length := by
      rw [← hwrite, Memory.length_write]
      rw [List.length_append, length_pemText, List.length_singleton]
      omega
    dsimp only
    rw [hwrite, cstr_terminated htext, ← hlength]
    have hshort : text.length < (text ++ 0 :: rest).length := by simp
    refine serialized_behind htext hnot chain _ _ (hlength ▸ hsize) ?_ ?_
    · omega
    · omega

theorem write_first {buffer text : OcString} :
    Memory.write buffer 0 (text ++ [0]) = text ++ 0 :: buffer.drop (text.length + 1) := by
  unfold Memory.write
  simp

theorem write_second {text rest text' : OcString} :
    Memory.write (text ++ 0 :: rest) text.length (text' ++ [0]) = (text ++ text') ++ 0 :: (0 :: rest).drop (text'.length + 1) := by
  rw [← Nat.add_zero text.length, Memory.write_append, write_first, List.append_assoc]

theorem serialized_start {all : List MemObject} (cert : MemObject) (next : List MemObject) (outputBuffer : MemObject) :
    Serialized all (ocCertsSerializeChainToPem (cert :: next) outputBuffer) ↔
      outputBuffer.bytes.length < pemOutputLen cert.bytes.length ∨
        (pemLength cert.bytes.length < outputBuffer.bytes.length ∧
          Serialized all (serializeChainLoop next
            (pemText cert.bytes ++ 0 :: outputBuffer.bytes.drop (pemLength cert.bytes.length + 1))
            (pemRoom outputBuffer.bytes.length (pemLength cert.bytes.length)))) := by
  obtain ⟨buffer, hsize⟩ := outputBuffer
  have hroom : pemRoom buffer.length 0 = buffer.length := pemRoom_zero hsize
  unfold ocCertsSerializeChainToPem
  dsimp only
  rw [← hroom, serialized_cons hsize (by omega), hroom]
  dsimp only
  rw [write_first, cstr_terminated (zero_notMem_pemText cert.bytes), length_pemText, Nat.zero_add]

/-- A chain is written as it should be if and only if it fits. -/
theorem ocCertsSerializeChainToPem_iff (cert : MemObject) (next : List MemObject) (outputBuffer : MemObject) :
    Serialized (cert :: next) (ocCertsSerializeChainToPem (cert :: next) outputBuffer) ↔
      PemFits (lengths (cert :: next)) outputBuffer.bytes.length := by
  have hfirst := zero_notMem_pemText cert.bytes
  have hstart (l l' : Nat) : pemStart l l' 0 = 0 ∧ pemStart l l' (0 + 1) = l := by simp [pemStart]
  rw [serialized_start]
  obtain ⟨buffer, hsize⟩ := outputBuffer
  unfold PemFits
  dsimp only
  rw [lengths, List.map_cons, refused_cons, Search.forall_getElem?_cons, List.getD_cons_zero, (hstart _ _).1, pemRoom_zero hsize,
    Nat.zero_add]
  have hsplit {a b r l p q : Prop} : (a ∨ (b ∧ r)) ∨ (l ∧ p ∧ b ∧ q) ↔ a ∨ (b ∧ (r ∨ (l ∧ p ∧ q))) := by tauto
  rw [hsplit]
  -- the first certificate fits
  refine or_congr_right (and_congr_right fun hend => ?_)
  generalize hrest : buffer.drop (pemLength cert.bytes.length + 1) = rest
  have hlength : (pemText cert.bytes ++ 0 :: rest).length = buffer.length := by
    rw [← hrest, List.length_append, List.length_cons, List.length_drop, length_pemText]
    omega
  rw [← hlength] at hsize hend ⊢
  cases next with
  | nil =>
    rw [serialized_nil hfirst]
    have htext : pemText cert.bytes = pemTexts [cert] := by simp [pemTexts]
    rw [htext, isPem_pemTexts_iff]
    simp [refused_nil, lengths]
  | cons cert' next =>
    -- the second one begins at the terminator of the first
    have hsecond := zero_notMem_pemText cert'.bytes
    rw [serialized_cons hsize (by omega), List.map_cons, refused_cons, Search.forall_getElem?_cons, List.getD_cons_succ,
      List.getD_cons_zero, (hstart _ _).2, hsplit]
    refine or_congr_right (and_congr_right fun hend' => ?_)
    have hboth : 0 ∉ pemText cert.bytes ++ pemText cert'.bytes := by
      rw [List.mem_append]
      exact not_or.2 ⟨hfirst, hsecond⟩
    have hwrite : Memory.write (pemText cert.bytes ++ 0 :: rest) (pemLength cert.bytes.length) (pemText cert'.bytes ++ [0]) =
        pemText cert.bytes ++ pemText cert'.bytes ++ 0 :: (0 :: rest).drop ((pemText cert'.bytes).length + 1) := by
      rw [← length_pemText, write_second]
    generalize (0 :: rest).drop ((pemText cert'.bytes).length + 1) = rest' at hwrite
    dsimp only
    rw [hwrite, cstr_terminated hboth]
    have hlength' : (pemText cert.bytes ++ pemText cert'.bytes ++ 0 :: rest').length =
        (pemText cert.bytes ++ 0 :: rest).length := by
      rw [← hwrite, Memory.length_write]
      rw [List.length_append, length_pemText cert'.bytes, List.length_singleton]
      omega
    have htext : pemText cert.bytes ++ pemText cert'.bytes = pemTexts [cert, cert'] := by simp [pemTexts]
    rw [← hlength'] at hsize hend' ⊢
    cases next with
    | nil =>
      rw [serialized_nil hboth, htext, isPem_pemTexts_iff]
      simp [refused_nil, lengths]
    | cons cert'' next =>
      -- from the third one on, each is written behind two, whatever is there
      have hnot : ¬IsPem (cert :: cert' :: cert'' :: next) (pemText cert.bytes ++ pemText cert'.bytes) := by
        rw [htext]
        intro hpem
        have hcount := (of_isPem_pemTexts hpem).1
        simp at hcount
      have htextLength : (pemText cert.bytes ++ pemText cert'.bytes).length =
          pemLength cert.bytes.length + pemLength cert'.bytes.length := by
        rw [List.length_append, length_pemText, length_pemText]
      have hpos : 0 < pemLength cert.bytes.length := by
        unfold pemLength pemOutputLen
        simp [crlf]
      have hstarts : (fun k => pemStart (pemLength cert.bytes.length) (pemLength cert'.bytes.length) (k + 1 + 1)) =
          fun k => pemLength cert.bytes.length + (pemText cert.bytes ++ pemText cert'.bytes).length +
            k * (pemText cert.bytes ++ pemText cert'.bytes).length := by
        funext k
        unfold pemStart
        rw [htextLength]
        simp only [Nat.add_sub_cancel]
        ring
      rw [serialized_behind hboth hnot _ _ _ hsize (by omega) (by omega), hstarts, or_iff_left]
      · rfl
      · simp

/-- An object of zeros. -/
def MemObject.zeros (n : Nat) (h : n < 2 ^ 31) : MemObject := ⟨List.replicate n 0, by rwa [List.length_replicate]⟩

/-- A certificate of 480 bytes, of which the last line is complete, in a buffer of 1000 bytes. -/
theorem ocCertsSerializeChainToPem_complete :
    ¬Serialized [.zeros 480 (by decide)] (ocCertsSerializeChainToPem [.zeros 480 (by decide)] (.zeros 1000 (by decide))) := by
  have hlength (n : Nat) (h : n < 2 ^ 31) : (MemObject.zeros n h).bytes.length = n := List.length_replicate
  rw [serialized_start, hlength, hlength]
  rintro (hroom | ⟨-, h⟩)
  · exact absurd hroom (by decide)
  · rw [serialized_nil (zero_notMem_pemText _)] at h
    have htext : pemText (MemObject.zeros 480 (by decide)).bytes = pemTexts [.zeros 480 (by decide)] :=
      (List.append_nil _).symm
    rw [htext, isPem_pemTexts_iff] at h
    exact h 480 (List.mem_singleton.2 (hlength 480 _).symm) rfl

end SmartGarage
