import SigV4.Proofs.Octets.HexCase
import SigV4.Proofs.Octets.Utf8
import SigV4.Proofs.Upload.Chain

/-!
# The last signature binds the whole chain

Whoever knows the last signature of a chain that was made with a secret knows the chain: two
chains of the same length that end in the same signature began with the same signature and
signed the same chunks, or else the two runs hashed two different things to the same digest,
and where they did is told (`SigV4.ChunkSigner.eq_or_collide_of_previous`). That nobody finds such a
collision is the assumption on SHA-256; it is no hypothesis here but the other alternative
of the conclusion.

The text that is signed for a chunk can be read in one way although nothing in it is quoted
(`SigV4.Scope.chunkStringToSign_inj`): the scope is the same in both runs, and what stands
behind the signature before has a fixed length. So the signature before may be any text, as
the first one is.
-/

namespace SigV4

/-- **A collision**: at the same place of two lists stand two different elements with the same
digest. -/
def Collide {α β : Type} (digest : α → β) (as bs : List α) : Prop :=
  ∃ pair ∈ as.zip bs, pair.1 ≠ pair.2 ∧ digest pair.1 = digest pair.2

section Collide

variable {α β : Type} {digest : α → β} {a b : α} {as bs : List α}

/-- Two digests that agree are those of one element, or collide. -/
theorem eq_or_collide_cons (h : digest a = digest b) :
    a = b ∨ Collide digest (a :: as) (b :: bs) := by
  by_cases hne : a = b
  · exact Or.inl hne
  · exact Or.inr ⟨(a, b), List.mem_cons_self, hne, h⟩

theorem Collide.cons (h : Collide digest as bs) : Collide digest (a :: as) (b :: bs) := by
  obtain ⟨pair, hmem, hpair⟩ := h
  exact ⟨pair, List.mem_cons_of_mem _ hmem, hpair⟩

end Collide

/-! ### The text of one chunk -/

/-- **The text that is signed for a chunk** determines the signature before and the digest of
the chunk. -/
theorem Scope.chunkStringToSign_inj {scope : Scope} {previous previous' : String}
    {chunk chunk' : Octets}
    (h : scope.chunkStringToSign previous chunk = scope.chunkStringToSign previous' chunk') :
    previous = previous' ∧ Sha256.digest chunk = Sha256.digest chunk' := by
  have hchars := congrArg String.toList h
  -- The scope in front is the same, and the digests behind are of the same length.
  simp only [chunkStringToSign, String.toList_append, List.append_assoc,
    List.append_right_inj] at hchars
  have hlength : (Sha256.hexDigest chunk).toList.length =
      (Sha256.hexDigest chunk').toList.length := by
    simp only [Sha256.hexDigest, String.length_toList, Hex.length_encode, Sha256.length_digest]
  obtain ⟨hprevious, hbehind⟩ :=
    List.append_inj' hchars (by simp only [List.length_append, hlength])
  simp only [List.append_right_inj] at hbehind
  exact ⟨String.toList_injective hprevious,
    Hex.encode_injective (String.toList_injective hbehind)⟩

namespace ChunkSigner

/-! ### One link -/

/-- **One link back**: if two chunks get the same signature with a secret, then the signatures
before them and the chunks agree, or there is a collision. -/
theorem eq_or_collide_of_sign {signer signer' next next' : ChunkSigner} {key : Octets}
    {chunk chunk' : Octets} {signature : String} {chunks chunks' : List Octets}
    {texts texts' : List Octets} (hscope : signer.scope = signer'.scope)
    (hkey : signer.key = .hmac key) (hkey' : signer'.key = .hmac key)
    (h : signer.sign chunk = .ok (signature, next))
    (h' : signer'.sign chunk' = .ok (signature, next')) :
    signer.previous = signer'.previous ∧ chunk = chunk' ∨
      Collide Sha256.digest (chunk :: chunks) (chunk' :: chunks') ∨
      Collide (Hmac.mac key)
        (Octets.ofText (signer.scope.chunkStringToSign signer.previous chunk) :: texts)
        (Octets.ofText (signer'.scope.chunkStringToSign signer'.previous chunk') :: texts') := by
  obtain ⟨-, hsignature, -⟩ := sign_eq_ok_iff.mp h
  obtain ⟨-, hsignature', -⟩ := sign_eq_ok_iff.mp h'
  rw [hkey] at hsignature
  rw [hkey'] at hsignature'
  have hmac := Hex.encode_injective
    ((Except.ok.inj hsignature).trans (Except.ok.inj hsignature').symm)
  rcases eq_or_collide_cons hmac with htext | hcollide
  · rw [← hscope] at htext
    obtain ⟨hprevious, hdigest⟩ := Scope.chunkStringToSign_inj (Octets.ofText_injective htext)
    rcases eq_or_collide_cons hdigest with hchunk | hcollide
    · exact Or.inl ⟨hprevious, hchunk⟩
    · exact Or.inr (Or.inl hcollide)
  · exact Or.inr (Or.inr hcollide)

/-! ### A whole chain -/

theorem eq_or_collide_of_signAll {signer signer' last last' : ChunkSigner} {key : Octets}
    {chunks chunks' : List Octets} {signatures signatures' : List String}
    (h : signer.signAll chunks = .ok (signatures, last))
    (h' : signer'.signAll chunks' = .ok (signatures', last'))
    (hscope : signer.scope = signer'.scope) (hkey : signer.key = .hmac key)
    (hkey' : signer'.key = .hmac key) (hlength : chunks.length = chunks'.length)
    (hlast : last.previous = last'.previous) :
    signer.previous = signer'.previous ∧ chunks = chunks' ∨
      Collide Sha256.digest chunks chunks' ∨
      Collide (Hmac.mac key)
        ((signer.scope.chunkTexts signer.previous signatures chunks).map Octets.ofText)
        ((signer'.scope.chunkTexts signer'.previous signatures' chunks').map Octets.ofText) := by
  -- What the rest of the chains says of the first signatures is what the first link needs.
  induction chunks generalizing signer signer' chunks' signatures signatures' with
  | nil =>
    obtain rfl := List.eq_nil_of_length_eq_zero hlength.symm
    obtain ⟨-, rfl⟩ := Prod.mk.inj (Except.ok.inj h)
    obtain ⟨-, rfl⟩ := Prod.mk.inj (Except.ok.inj h')
    exact Or.inl ⟨hlast, rfl⟩
  | cons chunk chunks ih =>
    obtain ⟨chunk', chunks', rfl⟩ := List.exists_cons_of_length_eq_add_one hlength.symm
    obtain ⟨signature, next, rest, hsign, hrest, rfl⟩ := signAll_cons_eq_ok_iff.mp h
    obtain ⟨signature', next', rest', hsign', hrest', rfl⟩ := signAll_cons_eq_ok_iff.mp h'
    obtain ⟨-, -, hnext⟩ := sign_eq_ok_iff.mp hsign
    obtain ⟨-, -, hnext'⟩ := sign_eq_ok_iff.mp hsign'
    have hbehind := ih hrest hrest' (by rw [hnext, hnext', hscope]) (by rw [hnext, hkey])
      (by rw [hnext', hkey']) (Nat.succ.inj hlength)
    rw [hnext, hnext'] at hbehind
    rcases hbehind with ⟨hsignature, rfl⟩ | hcollide | hcollide
    · obtain rfl : signature = signature' := hsignature
      rcases eq_or_collide_of_sign hscope hkey hkey' hsign hsign' with ⟨hprevious, rfl⟩ | hcollide
      · exact Or.inl ⟨hprevious, rfl⟩
      · exact Or.inr hcollide
    · exact Or.inr (Or.inl hcollide.cons)
    · exact Or.inr (Or.inr hcollide.cons)

/-- **The last signature binds the chain.** Two chains of one length, made with one secret in
one scope, that end in the same signature began with the same signature and signed the same
chunks; or two different chunks at one place have the same digest, or two different texts
signed at one place have the same code under the secret. -/
theorem eq_or_collide_of_previous {scope : Scope} {key : Octets} {seed seed' : String}
    {size size' : Nat} {chunks chunks' : List Octets} {signatures signatures' : List String}
    {last last' : ChunkSigner}
    (h : (start scope (.hmac key) seed size).signAll chunks = .ok (signatures, last))
    (h' : (start scope (.hmac key) seed' size').signAll chunks' = .ok (signatures', last'))
    (hlength : chunks.length = chunks'.length) (hlast : last.previous = last'.previous) :
    seed = seed' ∧ chunks = chunks' ∨
      Collide Sha256.digest chunks chunks' ∨
      Collide (Hmac.mac key) ((scope.chunkTexts seed signatures chunks).map Octets.ofText)
        ((scope.chunkTexts seed' signatures' chunks').map Octets.ofText) :=
  eq_or_collide_of_signAll h h' rfl rfl rfl hlength hlast

/-- A body of two chunks and the empty one, signed twice behind a first signature that holds
a line break. -/
theorem eq_or_collide_sample :
    ∃ signatures last,
      (start sampleScope (.hmac [0x6B]) "a\nb" 8192).signAll [[0x61], [0x62], []] =
        .ok (signatures, last) ∧
      ("a\nb" = "a\nb" ∧ [[0x61], [0x62], []] = [[0x61], [0x62], ([] : Octets)] ∨
        Collide Sha256.digest [[0x61], [0x62], []] [[0x61], [0x62], []] ∨
        Collide (Hmac.mac [0x6B])
          ((sampleScope.chunkTexts "a\nb" signatures [[0x61], [0x62], []]).map Octets.ofText)
          ((sampleScope.chunkTexts "a\nb" signatures [[0x61], [0x62], []]).map
            Octets.ofText)) := by
  obtain ⟨signatures, last, h⟩ : ∃ signatures last,
      (start sampleScope (.hmac [0x6B]) "a\nb" 8192).signAll [[0x61], [0x62], []] =
        .ok (signatures, last) :=
    exists_signAll (SigningKey.isTotal_hmac _) rfl (by decide)
  exact ⟨signatures, last, h, eq_or_collide_of_previous h h rfl rfl⟩

end ChunkSigner

end SigV4
