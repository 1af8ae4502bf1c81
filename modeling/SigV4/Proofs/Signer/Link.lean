import SigV4.Proofs.Canonical.Query
import SigV4.Proofs.Signer.Alike
import SigV4.Proofs.Signer.Written

/-!
# What a link says about its signature

A link is a request with its signature in the query. Besides the signature it has terms: who
signs it with which algorithm, when and for how long, which fields are signed, for which region
set, and with which token (`SigV4.Terms`). Each is a parameter, and token and region set are
parameters only if there are any.

The parameters are put behind those that the request has, and none of these is taken away. So
a parameter that the request had under one of these names is still there, in front of the one
that is meant, and whoever reads the first of the name reads the wrong one
(`SigV4.RequestSigner.valuesOf_of_sign`, `SigV4.RequestSigner.leftOverLink_of_sign`).

For the signature this makes no difference. A canonical query tells the parameters and not
their order, so it does not tell which of two parameters of one name was there first. But if
two links are made of one request, then their canonical queries have the parameters of the
request in common; and what is left after these are cancelled are the terms, in which no name
occurs twice. So two links of a request that sign the same canonical form have the same terms
(`SigV4.RequestSigner.terms_eq_of_text_eq`), and no term can be changed behind the back of
whoever has signed.
-/

namespace SigV4

/-! ### Parameters by their names -/

namespace Param

/-- The values of the parameters of a name, in order. -/
def valuesOf (params : List Param) (name : String) : List String :=
  (params.filter (·.name = name)).map (·.value)

theorem valuesOf_append (params params' : List Param) (name : String) :
    valuesOf (params ++ params') name = valuesOf params name ++ valuesOf params' name := by
  rw [valuesOf, List.filter_append, List.map_append]
  rfl

theorem valuesOf_perm {params params' : List Param} (h : params.Perm params') (name : String) :
    (valuesOf params name).Perm (valuesOf params' name) :=
  (h.filter _).map _

/-- The parameters of a list of names, of those that have a value. -/
def ofEntries (entries : List (String × Option String)) : List Param :=
  entries.flatMap fun entry => entry.2.toList.map (⟨entry.1, ·⟩)

theorem valuesOf_ofEntries_cons (entry : String × Option String)
    (rest : List (String × Option String)) (name : String) :
    valuesOf (ofEntries (entry :: rest)) name =
      valuesOf (entry.2.toList.map (⟨entry.1, ·⟩)) name ++ valuesOf (ofEntries rest) name := by
  rw [ofEntries, List.flatMap_cons, valuesOf_append]
  rfl

theorem valuesOf_ofEntry (name : String) (value : Option String) :
    valuesOf (value.toList.map (⟨name, ·⟩)) name = value.toList := by
  cases value <;> simp [valuesOf]

theorem valuesOf_ofEntry_of_ne {name other : String} (h : name ≠ other) (value : Option String) :
    valuesOf (value.toList.map (⟨name, ·⟩)) other = [] := by
  cases value <;> simp [valuesOf, h]

theorem valuesOf_ofEntries_of_notMem {entries : List (String × Option String)} {name : String}
    (h : name ∉ entries.map (·.1)) : valuesOf (ofEntries entries) name = [] := by
  induction entries with
  | nil => rfl
  | cons entry rest ih =>
    rw [List.map_cons, List.mem_cons, not_or] at h
    rw [valuesOf_ofEntries_cons, valuesOf_ofEntry_of_ne (Ne.symm h.1), ih h.2, List.nil_append]

/-- **A name that occurs once** has the value that is given with it, if one is. -/
theorem valuesOf_ofEntries {entries : List (String × Option String)}
    (hnodup : (entries.map (·.1)).Nodup) {name : String} {value : Option String}
    (h : (name, value) ∈ entries) : valuesOf (ofEntries entries) name = value.toList := by
  induction entries with
  | nil => cases h
  | cons entry rest ih =>
    obtain ⟨hnotMem, hrest⟩ := List.nodup_cons.mp hnodup
    rw [valuesOf_ofEntries_cons]
    rcases List.mem_cons.mp h with rfl | hmem
    · rw [valuesOf_ofEntry, valuesOf_ofEntries_of_notMem hnotMem, List.append_nil]
    · have hne : entry.1 ≠ name := by
        rintro rfl
        exact hnotMem (List.mem_map.mpr ⟨_, hmem, rfl⟩)
      rw [valuesOf_ofEntry_of_ne hne, ih hrest hmem, List.nil_append]

theorem toList_eq_of_perm {value value' : Option String} (h : value.toList.Perm value'.toList) :
    value = value' := by
  cases value with
  | none => exact (Option.toList_eq_nil_iff.mp h.nil_eq.symm).symm
  | some text => exact (Option.toList_eq_singleton_iff.mp (List.singleton_perm.mp h).symm).symm

/-- **The parameters tell the values**, in whatever order they come. -/
theorem eq_of_ofEntries_perm : ∀ {entries entries' : List (String × Option String)},
    entries.map (·.1) = entries'.map (·.1) → (entries.map (·.1)).Nodup →
    (ofEntries entries).Perm (ofEntries entries') → entries = entries'
  | [], [], _, _, _ => rfl
  | (name, value) :: rest, (name', value') :: rest', hnames, hnodup, h => by
    obtain ⟨hname, hrest⟩ := List.cons.inj hnames
    obtain rfl : name = name' := hname
    obtain ⟨hnotMem, hnodup⟩ := List.nodup_cons.mp hnodup
    -- Under the first name there is the first value, in both lists.
    have hfirst : value = value' := by
      have hvalues := valuesOf_perm h name
      rw [valuesOf_ofEntries_cons, valuesOf_ofEntries_cons, valuesOf_ofEntry, valuesOf_ofEntry,
        valuesOf_ofEntries_of_notMem hnotMem, valuesOf_ofEntries_of_notMem (hrest ▸ hnotMem),
        List.append_nil, List.append_nil] at hvalues
      exact toList_eq_of_perm hvalues
    subst hfirst
    rw [eq_of_ofEntries_perm hrest hnodup ((List.perm_append_left_iff _).mp h)]

end Param

/-- The first value of a name is the one that is read. -/
theorem Request.param?_eq (r : Request) (name : String) :
    r.param? name = (Param.valuesOf r.query name).head? := by
  rw [param?, Param.valuesOf, List.head?_map, List.head?_filter]

/-! ### Terms -/

theorem Algorithm.text_injective : Function.Injective text := by
  intro a b h
  cases a with
  | hmac =>
    cases b with
    | hmac => rfl
    | ecdsa => exact absurd h (by decide)
  | ecdsa =>
    cases b with
    | hmac => exact absurd h (by decide)
    | ecdsa => rfl

theorem Decimal.toString_injective : Function.Injective (toString : Nat → String) := by
  intro m n h
  rw [Nat.toString_eq_ofList_toDigits, Nat.toString_eq_ofList_toDigits] at h
  rw [← Nat.ofDigitChars_ten_toDigits (n := m), String.ofList_injective h,
    Nat.ofDigitChars_ten_toDigits]

/-- **The terms of a link**: what it says about its signature. -/
structure Terms where
  /-- The algorithm. -/
  algorithm : Algorithm
  /-- The key id and the scope. -/
  credential : String
  /-- The time of the signature. -/
  timestamp : String
  /-- The lifetime in seconds. -/
  lifetime : Nat
  /-- The names of the signed fields. -/
  signedNames : String
  /-- The region set, if the link is good for one. -/
  regionSet : Option String
  /-- The token of whoever signs, if there is one. -/
  token : Option String

namespace Terms

/-- **The terms** for a request with these fields. -/
def make (fields : Http.Fields) (scope : Scope) (identity : Identity) (lifetime : Nat) :
    Terms where
  algorithm := scope.algorithm
  credential := Announcement.credential scope identity
  timestamp := scope.timestamp
  lifetime
  signedNames := CanonicalFields.signedNamesText fields
  regionSet := scope.region.names?
  token := identity.sessionToken

/-- The terms by the names of their parameters. -/
def entries (t : Terms) : List (String × Option String) :=
  [(Vocabulary.algorithmParam, some t.algorithm.text),
   (Vocabulary.credentialParam, some t.credential),
   (Vocabulary.dateParam, some t.timestamp),
   (Vocabulary.expiresParam, some (toString t.lifetime)),
   (Vocabulary.signedHeadersParam, some t.signedNames),
   (Vocabulary.regionSetParam, t.regionSet),
   (Vocabulary.securityTokenParam, t.token)]

/-- Everything that a link says: the terms, and the signature. -/
def withSignature (t : Terms) (signature : String) : List (String × Option String) :=
  t.entries ++ [(Vocabulary.signatureParam, some signature)]

theorem ofEntries_withSignature (t : Terms) (signature : String) :
    Param.ofEntries (t.withSignature signature) =
      Param.ofEntries t.entries ++ [⟨Vocabulary.signatureParam, signature⟩] := by
  rw [withSignature, Param.ofEntries, List.flatMap_append]
  rfl

/-- No name stands for two terms, and none for a term and for the signature. -/
theorem nodup_withSignature (t : Terms) (signature : String) :
    ((t.withSignature signature).map (·.1)).Nodup := by
  have hnames : (t.withSignature signature).map (·.1) =
      [Vocabulary.algorithmParam, Vocabulary.credentialParam, Vocabulary.dateParam,
        Vocabulary.expiresParam, Vocabulary.signedHeadersParam, Vocabulary.regionSetParam,
        Vocabulary.securityTokenParam, Vocabulary.signatureParam] := rfl
  rw [hnames]
  decide

theorem nodup_entries (t : Terms) : (t.entries.map (·.1)).Nodup := by
  have hnodup := nodup_withSignature t ""
  rw [withSignature, List.map_append] at hnodup
  exact (List.nodup_append.mp hnodup).1

theorem entries_injective : Function.Injective entries := by
  rintro ⟨algorithm, credential, timestamp, lifetime, signedNames, regionSet, token⟩
    ⟨algorithm', credential', timestamp', lifetime', signedNames', regionSet', token'⟩ h
  simp only [entries, List.cons.injEq, Prod.mk.injEq, Option.some_inj, true_and, and_true] at h
  obtain ⟨halgorithm, rfl, rfl, hlifetime, rfl, rfl, rfl⟩ := h
  rw [Algorithm.text_injective halgorithm, Decimal.toString_injective hlifetime]

/-- **The parameters tell the terms**, in whatever order they come. -/
theorem eq_of_params_perm {t t' : Terms}
    (h : (Param.ofEntries t.entries).Perm (Param.ofEntries t'.entries)) : t = t' :=
  entries_injective (Param.eq_of_ofEntries_perm rfl t.nodup_entries h)

theorem params_eq (request : Request) (scope : Scope) (identity : Identity) (lifetime : Nat) :
    Announcement.params request scope identity lifetime =
      Param.ofEntries (make request.fields scope identity lifetime).entries := by
  simp only [Announcement.params, Announcement.regionSet_eq_names?, Param.ofEntries, entries,
    make, List.flatMap_cons, List.flatMap_nil, List.append_nil, List.append_assoc]
  rfl

end Terms

namespace RequestSigner

variable {signer signer' : RequestSigner} {now now' : Instant} {request : Request}
  {identity identity' : Identity} {mode mode' : Mode} {s s' : Signed}

/-! ### Links -/

/-- What was signed is legible. -/
theorem legible_of_sign (h : signer.sign now request identity mode = .ok s) :
    s.canonical.Legible := by
  obtain ⟨announced, hcanonical, -, -⟩ := exists_announced h
  exact CanonicalRequest.legible_of_ofRequest hcanonical

/-- **The query of a link**: the parameters of the request, the terms, and the signature. All but
the signature is signed. -/
theorem exists_terms (h : signer.sign now request identity mode = .ok s)
    (hmode : mode.isQuery = true) :
    ∃ scope lifetime, Scope.make now signer.region signer.service = .ok scope ∧
      mode.lifetime now = .ok (some lifetime) ∧
      s.canonical.query = CanonicalQuery.ofParams (request.query ++
        Param.ofEntries (Terms.make s.request.fields scope identity lifetime).entries) ∧
      s.request.query = request.query ++ Param.ofEntries
        ((Terms.make s.request.fields scope identity lifetime).withSignature s.signature) := by
  obtain ⟨plan, announced, hplan, hannounce, hcanonical, -, hattach, -⟩ := sign_eq_ok_iff.mp h
  obtain ⟨hscope, hlifetime, -, -⟩ := plan_eq_ok_iff.mp hplan
  obtain ⟨lifetime, hsome⟩ :=
    Option.isSome_iff_exists.mp ((Mode.isSome_lifetime hlifetime).trans hmode)
  obtain ⟨hosted, hhosted, rfl⟩ := announce_of_lifetime_some hsome hannounce
  obtain ⟨-, -, -, hquery, -, -⟩ := CanonicalRequest.ofRequest_eq_ok_iff.mp hcanonical
  have hsigned := attach_of_lifetime_some hsome hattach
  have hannounced : (Announcement.inQuery hosted plan.scope identity lifetime).query =
      request.query ++
        Param.ofEntries (Terms.make s.request.fields plan.scope identity lifetime).entries := by
    rw [hsigned, Announcement.inQuery, Terms.params_eq, hhosted]
    rfl
  refine ⟨plan.scope, lifetime, hscope, hsome ▸ hlifetime, ?_, ?_⟩
  · rw [hquery, hannounced]
  · rw [Terms.ofEntries_withSignature, ← List.append_assoc, ← hannounced, hsigned]
    rfl

/-- **Under each of its names** a link has what the request had there, and behind it what is
meant. -/
theorem exists_valuesOf (h : signer.sign now request identity mode = .ok s)
    (hmode : mode.isQuery = true) :
    ∃ scope lifetime, Scope.make now signer.region signer.service = .ok scope ∧
      mode.lifetime now = .ok (some lifetime) ∧
      ∀ entry ∈ (Terms.make s.request.fields scope identity lifetime).withSignature s.signature,
        Param.valuesOf s.request.query entry.1 =
          Param.valuesOf request.query entry.1 ++ entry.2.toList := by
  obtain ⟨scope, lifetime, hscope, hlifetime, -, hquery⟩ := exists_terms h hmode
  refine ⟨scope, lifetime, hscope, hlifetime, fun entry hentry => ?_⟩
  rw [hquery, Param.valuesOf_append,
    Param.valuesOf_ofEntries (Terms.nodup_withSignature _ _) hentry]

/-! ### What is read from a link -/

/-- **What is read from a link.** Under each of its names a link has what the request had there,
and behind it what is meant. So what is meant is read, unless the request has something under
the name; and nothing is read that is not meant, unless the request has it. -/
theorem valuesOf_of_sign (h : signer.sign now request identity mode = .ok s)
    (hmode : mode.isQuery = true) :
    ∃ scope lifetime, Scope.make now signer.region signer.service = .ok scope ∧
      mode.lifetime now = .ok (some lifetime) ∧
      ∀ entry ∈ (Terms.make s.request.fields scope identity lifetime).withSignature s.signature,
        Param.valuesOf s.request.query entry.1 =
            Param.valuesOf request.query entry.1 ++ entry.2.toList ∧
          s.request.param? entry.1 = (request.param? entry.1).or entry.2 := by
  obtain ⟨scope, lifetime, hscope, hlifetime, hvalues⟩ := exists_valuesOf h hmode
  refine ⟨scope, lifetime, hscope, hlifetime, fun entry hentry => ⟨hvalues entry hentry, ?_⟩⟩
  rw [Request.param?_eq, hvalues entry hentry, List.head?_append, Option.head?_toList,
    ← Request.param?_eq]

/-- A link for a minute, of a request that has none of the names. -/
theorem valuesOf_of_sign_sample :
    ∃ s, sampleSigner.sign .epoch sample sampleIdentity sampleMode = .ok s ∧
      Param.valuesOf s.request.query Vocabulary.expiresParam = ["60"] ∧
      s.request.param? Vocabulary.signatureParam = some s.signature ∧
      s.request.param? Vocabulary.securityTokenParam = none := by
  obtain ⟨s, hs⟩ := exists_sign (signable_sample (Or.inr rfl))
  obtain ⟨scope, lifetime, -, hlifetime, hall⟩ := valuesOf_of_sign hs rfl
  obtain rfl : 60 = lifetime := Option.some.inj (Except.ok.inj hlifetime)
  refine ⟨s, hs, ?_, ?_, ?_⟩
  · exact (hall (Vocabulary.expiresParam, some (toString 60)) (by simp [Terms.withSignature,
      Terms.entries, Terms.make])).1
  · exact (hall (Vocabulary.signatureParam, some s.signature) (by simp [Terms.withSignature])).2
  · exact (hall (Vocabulary.securityTokenParam, none) (by simp [Terms.withSignature,
      Terms.entries, Terms.make, sampleIdentity, Identity.sessionToken])).2

/-- A request with the time and the signature of another link. -/
def leftOverLink : Request where
  __ := sample
  query := [⟨Vocabulary.dateParam, "20150830T123600Z"⟩, ⟨Vocabulary.signatureParam, "00"⟩]

/-- Someone with the key id of `SigV4.RequestSigner.sampleIdentity` and another secret. -/
def sampleOther : Identity := .symmetric { accessKeyId := "id", secretAccessKey := "other" }

theorem exists_sign_leftOverLink {identity : Identity}
    (h : identity = sampleIdentity ∨ identity = sampleOther) :
    ∃ s, sampleSigner.sign .epoch leftOverLink identity sampleMode = .ok s := by
  rcases h with rfl | rfl
  · exact exists_sign ⟨_, rfl, ⟨_, rfl⟩, _, rfl, _, rfl, by decide, by decide⟩
  · exact exists_sign ⟨_, rfl, ⟨_, rfl⟩, _, rfl, _, rfl, by decide, by decide⟩

/-- **What was left over is read**: a request that has been a link before says twice when it was
signed, and the first time it says what is not meant. -/
theorem leftOverLink_of_sign :
    ∃ s, sampleSigner.sign .epoch leftOverLink sampleIdentity sampleMode = .ok s ∧
      ¬(Param.valuesOf s.request.query Vocabulary.dateParam).length = 1 ∧
      ¬(Param.valuesOf s.request.query Vocabulary.signatureParam).length = 1 ∧
      ¬s.request.param? Vocabulary.dateParam = some Instant.epoch.timestamp := by
  obtain ⟨s, hs⟩ := exists_sign_leftOverLink (Or.inl rfl)
  obtain ⟨scope, lifetime, hscope, hlifetime, hvalues⟩ := exists_valuesOf hs rfl
  have hdate : Param.valuesOf s.request.query Vocabulary.dateParam =
      ["20150830T123600Z", scope.timestamp] :=
    hvalues (Vocabulary.dateParam, some scope.timestamp)
      (by simp [Terms.withSignature, Terms.entries, Terms.make])
  have hsignature : Param.valuesOf s.request.query Vocabulary.signatureParam =
      ["00", s.signature] :=
    hvalues (Vocabulary.signatureParam, some s.signature) (by simp [Terms.withSignature])
  refine ⟨s, hs, ?_, ?_, ?_⟩
  · rw [hdate]
    exact Nat.succ_ne_self 1
  · rw [hsignature]
    exact Nat.succ_ne_self 1
  · rw [Request.param?_eq, hdate, List.head?_cons]
    decide

/-! ### What the signature covers -/

/-- **The terms are signed**: two links of one request, made by whomever and for whatever time,
have the same terms if the same canonical form was signed for both. They differ at most in the
signature then. -/
theorem terms_eq_of_text_eq (h : signer.sign now request identity mode = .ok s)
    (h' : signer'.sign now' request identity' mode' = .ok s')
    (hmode : mode.isQuery = true) (hmode' : mode'.isQuery = true)
    (htext : s.canonical.text = s'.canonical.text) :
    ∃ scope scope' lifetime lifetime',
      Scope.make now signer.region signer.service = .ok scope ∧
      Scope.make now' signer'.region signer'.service = .ok scope' ∧
      mode.lifetime now = .ok (some lifetime) ∧ mode'.lifetime now' = .ok (some lifetime') ∧
      Terms.make s.request.fields scope identity lifetime =
        Terms.make s'.request.fields scope' identity' lifetime' ∧
      s.request.query.dropLast = s'.request.query.dropLast := by
  obtain ⟨scope, lifetime, hscope, hlifetime, hcanonical, hquery⟩ := exists_terms h hmode
  obtain ⟨scope', lifetime', hscope', hlifetime', hcanonical', hquery'⟩ := exists_terms h' hmode'
  have hsame : s.canonical = s'.canonical :=
    CanonicalRequest.text_inj (legible_of_sign h) (legible_of_sign h') htext
  -- The parameters of the request are in both queries, and what is left when they are cancelled
  -- are the terms.
  have hperm := CanonicalQuery.ofParams_eq_iff_perm.mp
    (hcanonical.symm.trans ((congrArg CanonicalRequest.query hsame).trans hcanonical'))
  have hterms := Terms.eq_of_params_perm ((List.perm_append_left_iff _).mp hperm)
  refine ⟨scope, scope', lifetime, lifetime', hscope, hscope', hlifetime, hlifetime', hterms, ?_⟩
  rw [hquery, hquery', Terms.ofEntries_withSignature, Terms.ofEntries_withSignature, hterms,
    ← List.append_assoc, ← List.append_assoc, List.dropLast_concat, List.dropLast_concat]

/-- Two secrets with one key id: the signatures are made with other keys, and all that is said
about them is the same. -/
theorem terms_eq_of_text_eq_sample :
    ∃ s s', sampleSigner.sign .epoch leftOverLink sampleIdentity sampleMode = .ok s ∧
      sampleSigner.sign .epoch leftOverLink sampleOther sampleMode = .ok s' ∧
      s.canonical.text = s'.canonical.text ∧
      s.request.query.dropLast = s'.request.query.dropLast := by
  obtain ⟨s, hs⟩ := exists_sign_leftOverLink (Or.inl rfl)
  obtain ⟨s', hs'⟩ := exists_sign_leftOverLink (Or.inr rfl)
  have halike : sampleIdentity.Alike sampleOther := ⟨rfl, rfl⟩
  have htext : s.canonical.text = s'.canonical.text :=
    congrArg CanonicalRequest.text (canonical_of_alike halike hs hs')
  obtain ⟨-, -, -, -, -, -, -, -, -, hquery⟩ := terms_eq_of_text_eq hs hs' rfl rfl htext
  exact ⟨s, s', hs, hs', htext, hquery⟩

end RequestSigner

end SigV4
