import SigV4.Proofs.Upload.Frame

/-!
# Frames are read back

What was written as a frame is read as this frame, whatever follows it
(`SigV4.Frame.read?_octets_append`), and a whole body is read up to the empty chunk and no
further (`SigV4.Frame.readBody?_append`).

The reader looks for a semicolon and for a line break, and it looks for them in front of
the chunk only: the length and the signature are hexadecimal text, which holds neither, and
the chunk is taken by its length. So nothing is asked of the octets of the chunk.
-/

namespace SigV4

namespace Hex

theorem digitOctet_ne {n : Nat} (h : n < 16) :
    digitOctet (digit n) ≠ 0x3B ∧ digitOctet (digit n) ≠ 0x0D := by
  revert n
  decide

theorem ofNat_toNat_digitOctet {n : Nat} (h : n < 16) :
    Char.ofNat (digitOctet (digit n)).toNat = digit n := by
  revert n
  decide

/-- The octets of hexadecimal text end at the first octet that is no digit. -/
theorem IsHex.takeWhile_append {s : String} (h : IsHex s) {b : UInt8}
    (hb : ∀ n < 16, digitOctet (digit n) ≠ b) (rest : Octets) :
    (Octets.ofText s ++ b :: rest).takeWhile (· ≠ b) = Octets.ofText s := by
  have hdigits : ∀ a ∈ Octets.ofText s, decide (a ≠ b) = true := by
    intro a ha
    rw [h.ofText] at ha
    obtain ⟨c, hc, rfl⟩ := List.mem_map.mp ha
    obtain ⟨n, hn, rfl⟩ := h c hc
    exact decide_eq_true (hb n hn)
  rw [List.takeWhile_append_of_pos hdigits, List.takeWhile_cons_of_neg (by simp), List.append_nil]

/-- The octets of hexadecimal text are read as text, one character each. -/
theorem IsHex.ofList_map_ofText {s : String} (h : IsHex s) :
    String.ofList ((Octets.ofText s).map fun b => Char.ofNat b.toNat) = s := by
  have hchars : ∀ c ∈ s.toList, Char.ofNat (digitOctet c).toNat = c := by
    intro c hc
    obtain ⟨n, hn, rfl⟩ := h c hc
    exact ofNat_toNat_digitOctet hn
  have hback : (s.toList.map digitOctet).map (fun b => Char.ofNat b.toNat) = s.toList := by
    rw [List.map_map]
    exact (List.map_congr_left hchars).trans (List.map_id' _)
  rw [h.ofText, hback, String.ofList_toList]

end Hex

namespace Frame

/-! ### The length -/

theorem foldlM_toDigits (n : Nat) :
    ((Nat.toDigits 16 n).map Hex.digitOctet).foldlM
      (fun n b => (Hex.digitValue? (Char.ofNat b.toNat)).map (n * 16 + ·)) 0 = some n := by
  have hdigit : ∀ d < 16, Hex.digitValue? (Char.ofNat (Hex.digitOctet (Hex.digit d)).toNat) =
      some d := by
    intro d hd
    rw [Hex.ofNat_toNat_digitOctet hd, Hex.digitValue?_digit hd]
  -- The induction goes by the last digit, as a number is written.
  induction n using Nat.strongRecOn with
  | ind n ih =>
    rw [Nat.toDigits_eq_if (by decide)]
    split
    · next hlt =>
      change (Hex.digitValue? (Char.ofNat (Hex.digitOctet (Hex.digit n)).toNat)).map _ >>= _ = _
      rw [hdigit n hlt, Option.map_some, Nat.zero_mul, Nat.zero_add]
      rfl
    · next hge =>
      have hmod := hdigit (n % 16) (Nat.mod_lt n (by decide))
      rw [List.map_append, List.foldlM_append, ih (n / 16) (by omega)]
      change (Hex.digitValue? (Char.ofNat (Hex.digitOctet (Hex.digit (n % 16))).toNat)).map _ >>=
        _ = _
      rw [hmod, Option.map_some, Nat.div_add_mod']
      rfl

/-- **A written length is read back.** -/
theorem readLength?_ofNat (n : Nat) : readLength? (Octets.ofText (Hex.ofNat n)) = some n := by
  rw [(Hex.isHex_ofNat n).ofText, Hex.ofNat, String.toList_ofList]
  unfold readLength?
  split
  · next hnil => exact absurd (List.map_eq_nil_iff.mp hnil) Nat.toDigits_ne_nil
  · exact foldlM_toDigits n

/-! ### One frame -/

theorem dropFront?_append (front rest : Octets) : dropFront? front (front ++ rest) = some rest :=
  dropFront?_eq_some_iff.mpr rfl

/-- **A frame is read back**, whatever follows it. -/
theorem read?_octets_append {frame : Frame} (h : Hex.IsHex frame.signature) (rest : Octets) :
    read? (frame.octets ++ rest) = some (frame, rest) := by
  have hoctets : frame.octets ++ rest = Octets.ofText (Hex.ofNat frame.chunk.length) ++
      (Octets.ofText signatureMark ++ (Octets.ofText frame.signature ++
        (lineBreak ++ (frame.chunk ++ (lineBreak ++ rest))))) := by
    simp only [octets, header, Octets.ofText_append, List.append_assoc]
  have hdigits : (frame.octets ++ rest).takeWhile (· ≠ 0x3B) =
      Octets.ofText (Hex.ofNat frame.chunk.length) := by
    rw [hoctets]
    exact (Hex.isHex_ofNat _).takeWhile_append (fun n hn => (Hex.digitOctet_ne hn).1) _
  have hsignature : (Octets.ofText frame.signature ++
      (lineBreak ++ (frame.chunk ++ (lineBreak ++ rest)))).takeWhile (· ≠ 0x0D) =
        Octets.ofText frame.signature :=
    h.takeWhile_append (fun n hn => (Hex.digitOctet_ne hn).2) _
  rw [read?, hdigits, readLength?_ofNat, hoctets]
  simp only [Option.bind_eq_bind, Option.bind_some, List.drop_left, dropFront?_append, hsignature,
    List.take_left, h.ofList_map_ofText]
  rw [if_neg (by rw [List.length_append]; omega)]

/-! ### A whole body -/

theorem readBody?_of_read? {frame : Frame} {bs rest : Octets} (h : read? bs = some (frame, rest)) :
    readBody? bs =
      if frame.chunk = [] then some ([frame], rest)
      else (readBody? rest).map fun (frames, rest) => (frame :: frames, rest) := by
  rw [readBody?]
  split
  · next hnone =>
    rw [hnone] at h
    cases h
  · next frame' rest' hsome =>
    rw [hsome] at h
    obtain ⟨rfl, rfl⟩ := Prod.mk.inj (Option.some.inj h)
    rfl

/-- **A body is read back**, up to its empty chunk, whatever follows it. -/
theorem readBody?_append {frames : List Frame} {last : Frame}
    (hframes : ∀ frame ∈ frames, Hex.IsHex frame.signature ∧ frame.chunk ≠ [])
    (hhex : Hex.IsHex last.signature) (hlast : last.chunk = []) (rest : Octets) :
    readBody? (((frames ++ [last]).map octets).flatten ++ rest) =
      some (frames ++ [last], rest) := by
  induction frames with
  | nil =>
    rw [List.nil_append, List.map_singleton, List.flatten_singleton,
      readBody?_of_read? (read?_octets_append hhex rest), if_pos hlast]
  | cons frame frames ih =>
    obtain ⟨⟨hframe, hchunk⟩, hrest⟩ := List.forall_mem_cons.mp hframes
    rw [List.cons_append, List.map_cons, List.flatten_cons, List.append_assoc,
      readBody?_of_read? (read?_octets_append hframe _), if_neg hchunk, ih hrest, Option.map_some]

/-- **A body is read back** to its end, if its last chunk, and no other, is empty. -/
theorem readBody?_of_map_chunk {frames : List Frame} {chunks : List Octets}
    (hhex : ∀ frame ∈ frames, Hex.IsHex frame.signature) (hchunks : [] ∉ chunks)
    (h : frames.map (·.chunk) = chunks ++ [[]]) :
    readBody? (frames.map octets).flatten = some (frames, []) := by
  obtain ⟨front, behind, rfl, rfl, hbehind⟩ := List.map_eq_append_iff.mp h
  obtain ⟨last, rfl, hlast⟩ := List.map_eq_singleton_iff.mp hbehind
  obtain ⟨hfront, hend⟩ := List.forall_mem_append.mp hhex
  have hframes : ∀ frame ∈ front, Hex.IsHex frame.signature ∧ frame.chunk ≠ [] := by
    intro frame hframe
    refine ⟨hfront frame hframe, fun hnil => hchunks ?_⟩
    rw [← hnil]
    exact List.mem_map_of_mem hframe
  have hbody := readBody?_append hframes (hend last (List.mem_singleton_self last)) hlast []
  rwa [List.append_nil] at hbody

end Frame

end SigV4
