import NetworkRecovery.Audit.Run

/-!
# What the chain and its anchor detect

Two results that point in opposite directions.

Against an anchor that was kept, everything that is hashed is bound
(`sameBodies_of_tip`): two accepted lists with one tip have the same length
and the same bodies, so no edit, insertion, deletion, reordering or truncation
passes, recomputed or not. This needs the digest to be injective, and rests on
the hash-chain rule `HashChain.tip_binding`; that the text before the digest
can be taken apart again (no hash holds the bar, canonical JSON determines its
value) is proved here.

What is not hashed is not bound at all. `previous_hash` is excluded from the
body and never compared, so `verify_chain` gives the SAME ANSWER whatever
stands there (`verifyChain_previousHash`).
-/

namespace Audit

open Python

/-! ## The link is injective -/

/-- A dictionary in which no key stands twice: what `json.loads` returns. -/
abbrev WFDict := { d : Dict // (Value.dict d).WF }

/-- The body of a well-formed record is well formed. -/
def hashBody (record : WFDict) : WFDict :=
  ⟨auditHashBody record.1, record.2.1.sublist (List.filter_sublist.map _),
    entriesWF_filter _ record.2.2⟩

theorem encode_injective : Function.Injective encode := by
  intro s t h
  have hs := decode_encode s
  rw [h, decode_encode] at hs
  exact (Option.some.inj hs).symm

/-- The hashes of the scheme: no bar in them. -/
def NoBar (h : String) : Prop := '|' ∉ h.toList

theorem chainHash_noBar (H : Digest) (prev : String) (body : Dict) :
    NoBar (chainHash H prev body) :=
  fun hbar => absurd (chainHash_hex H prev body '|' hbar) (by decide)

/-- The first bar takes a text apart. -/
theorem append_bar_inj {s s' t t' : List Char} (hs : '|' ∉ s) (hs' : '|' ∉ s')
    (h : s ++ '|' :: t = s' ++ '|' :: t') : s = s' ∧ t = t' := by
  induction s generalizing s' with
  | nil =>
    cases s' with
    | nil => exact ⟨rfl, (List.cons.inj h).2⟩
    | cons c cs => exact absurd (List.cons.inj h).1 fun hc => hs' (hc ▸ List.mem_cons_self)
  | cons c cs ih =>
    cases s' with
    | nil => exact absurd (List.cons.inj h).1 fun hc => hs (hc ▸ List.mem_cons_self)
    | cons d ds =>
      obtain ⟨rfl, hrest⟩ := List.cons.inj h
      obtain ⟨rfl, rfl⟩ := ih (fun hm => hs (List.mem_cons_of_mem _ hm))
        (fun hm => hs' (List.mem_cons_of_mem _ hm)) hrest
      exact ⟨rfl, rfl⟩

theorem chainHash_injective {H : Digest} (hinj : Function.Injective H.hexdigest)
    (h h' : String) (b b' : WFDict) (hh : NoBar h) (hh' : NoBar h')
    (heq : chainHash H h b.1 = chainHash H h' b'.1) :
    h = h' ∧ (Value.dict b.1).Same (.dict b'.1) := by
  have htext := encode_injective (hinj heq)
  obtain ⟨hprev, hjson⟩ := append_bar_inj hh hh' htext
  exact ⟨String.toList_inj.mp hprev, dumpsSorted_injective b.2 b'.2 hjson⟩

/-! ## Tamper evidence -/

/-- Same length, and body by body the same content. -/
def SameBodies (R R' : List Dict) : Prop :=
  List.Forall₂ (fun r r' => (Value.dict (auditHashBody r)).Same (.dict (auditHashBody r'))) R R'

/-- The tip of an accepted list is the tip of the chain of its bodies. -/
theorem actualTip_eq_tip {H : Digest} {R : List WFDict}
    (h : (verifyChain H (R.map Subtype.val)).1 = true) :
    actualTip (R.map Subtype.val) =
      HashChain.tip (fun h (b : WFDict) => chainHash H h b.1) "genesis" (R.map hashBody) := by
  have hlast := (verifyChain_true.mp h).last_eq_tip
  rw [(actualTip_eq h).1]
  simp only [List.map_map, List.getLast?_map, Option.map_map] at hlast ⊢
  refine Eq.trans ?_ (hlast.trans ?_)
  · rfl
  · simp only [HashChain.tip, List.foldl_map]
    rfl

/-- Two accepted lists with one tip have the same bodies. -/
theorem sameBodies_of_tip {H : Digest} (hinj : Function.Injective H.hexdigest)
    {R R' : List WFDict} (hR : (verifyChain H (R.map Subtype.val)).1 = true)
    (hR' : (verifyChain H (R'.map Subtype.val)).1 = true)
    (htip : actualTip (R.map Subtype.val) = actualTip (R'.map Subtype.val)) :
    SameBodies (R.map Subtype.val) (R'.map Subtype.val) := by
  rw [actualTip_eq_tip hR, actualTip_eq_tip hR'] at htip
  have hbodies := HashChain.tip_binding _ "genesis" NoBar
    (fun b b' : WFDict => (Value.dict b.1).Same (.dict b'.1)) (by unfold NoBar; decide)
    (fun h b => chainHash_noBar H h b.1) (fun h b => chainHash_ne_genesis H h b.1)
    (chainHash_injective hinj) _ _ htip
  rw [List.forall₂_map_left_iff, List.forall₂_map_right_iff] at hbodies
  unfold SameBodies
  rw [List.forall₂_map_left_iff, List.forall₂_map_right_iff]
  exact hbodies

/-- What is read from a file is well formed. -/
theorem exists_wfDict (records : List Dict) (text : List Char) (h : auditRecords text = records) :
    ∃ R : List WFDict, R.map Subtype.val = records := by
  have hwf : ∀ r ∈ records, (Value.dict r).WF := by
    intro r hr
    rw [← h] at hr
    obtain ⟨line, -, hline⟩ := List.mem_filterMap.mp hr
    unfold recordOfLine at hline
    split at hline
    · exact absurd hline (by simp)
    · split at hline
      · next hloads =>
        cases hline
        exact loads_wf hloads
      · exact absurd hline (by simp)
  exact ⟨records.attach.map fun r => ⟨r.1, hwf r.1 r.2⟩, by simp⟩

theorem readAuditRecords_inv {f : File} {records : List Dict}
    (h : readAuditRecords f = .ok records) :
    ∃ text, fileText f = some text ∧ auditRecords text = records := by
  cases htext : fileText f with
  | some text =>
    rw [readAuditRecords_eq htext] at h
    exact ⟨text, rfl, Except.ok.inj h⟩
  | none =>
    cases f with
    | none => exact absurd htext (by simp [fileText])
    | some b =>
      have hb : readText b = none := htext
      simp [readAuditRecords, readFile, hb, Except.map] at h

/-- A verification that succeeds against an anchor: the file was read, the
chain accepted, and both comparisons with the anchor came out true. -/
theorem verifyAuditWithTip_verified {H : Digest} {s : Store} {result : VerifyResult}
    (h : verifyAuditWithTip H s = .ok result) (hpresent : result.tipPresent = true) :
    ∃ text tip tipMatch countMatch, fileText s.log = some text ∧
      loadTipAnchor s.tip = .ok (some tip) ∧
      checkTip (auditRecords text) tip = .ok (tipMatch, countMatch) ∧
      (result.verified = true ↔
        (verifyChain H (auditRecords text)).1 = true ∧ tipMatch = true ∧ countMatch = true) := by
  cases hread : readAuditRecords s.log with
  | error e =>
    unfold verifyAuditWithTip at h
    rw [hread] at h
    exact absurd h (by simp [bind, Except.bind])
  | ok records =>
    obtain ⟨text, htext, rfl⟩ := readAuditRecords_inv hread
    unfold verifyAuditWithTip at h
    rw [hread] at h
    simp only [bind, Except.bind] at h
    cases hload : loadTipAnchor s.tip with
    | error e =>
      rw [hload] at h
      exact absurd h (by simp)
    | ok tip? =>
      rw [hload] at h
      cases tip? with
      | none =>
        cases h
        exact absurd hpresent (by simp)
      | some tip =>
        cases hcheck : checkTip (auditRecords text) tip with
        | error e =>
          simp only [hcheck] at h
          exact absurd h (by simp)
        | ok pair =>
          obtain ⟨tipMatch, countMatch⟩ := pair
          simp only [hcheck] at h
          cases h
          refine ⟨text, tip, tipMatch, countMatch, htext, rfl, hcheck, ?_⟩
          cases hrec : auditRecords text with
          | nil => simp [verifyChain, verifyChainFrom]
          | cons r rs => simp [and_assoc]

/-- Verification returns when the log and the anchor can be read. -/
theorem verifyAuditWithTip_total {H : Digest} {s : Store} {text : List Char} {tip : Dict}
    {m : Bool × Bool} (htext : fileText s.log = some text)
    (hload : loadTipAnchor s.tip = .ok (some tip))
    (hcheck : checkTip (auditRecords text) tip = .ok m) :
    ∃ result, verifyAuditWithTip H s = .ok result ∧ result.tipPresent = true := by
  unfold verifyAuditWithTip
  rw [readAuditRecords_eq htext]
  simp only [bind, Except.bind, hload, hcheck]
  exact ⟨_, rfl, rfl⟩

/-- The anchor compares the tip it holds with the tip of the records. -/
theorem checkTip_eq {records : List Dict} {tip : Dict} {tipMatch countMatch : Bool}
    (h : checkTip records tip = .ok (tipMatch, countMatch)) :
    tipMatch = ((orElse (tip.get? "tip_hash") (.str "")).toText == actualTip records) := by
  unfold checkTip at h
  cases hcount : (orElse (tip.get? "record_count") (.int (-1))).toInt with
  | error e =>
    simp only [hcount, bind, Except.bind] at h
    exact absurd h (by simp)
  | ok n =>
    simp only [hcount, bind, Except.bind, pure, Except.pure] at h
    exact (Prod.mk.inj (Except.ok.inj h)).1.symm

/-- Whether the comparison raises does not depend on the records. -/
theorem checkTip_total {records : List Dict} {tip : Dict} {m : Bool × Bool}
    (h : checkTip records tip = .ok m) (records' : List Dict) : ∃ m', checkTip records' tip = .ok m' := by
  unfold checkTip at h ⊢
  cases hcount : (orElse (tip.get? "record_count") (.int (-1))).toInt with
  | error e =>
    simp only [hcount, bind, Except.bind] at h
    exact absurd h (by simp)
  | ok n => exact ⟨_, rfl⟩

/-- Two accepted lists that match one anchor have the same bodies. -/
theorem sameBodies_of_checkTip {H : Digest} (hinj : Function.Injective H.hexdigest)
    {R R' : List WFDict} {tip : Dict} (hR : (verifyChain H (R.map Subtype.val)).1 = true)
    (hR' : (verifyChain H (R'.map Subtype.val)).1 = true)
    (hm : checkTip (R.map Subtype.val) tip = .ok (true, true))
    (hm' : checkTip (R'.map Subtype.val) tip = .ok (true, true)) :
    SameBodies (R.map Subtype.val) (R'.map Subtype.val) := by
  have h := beq_iff_eq.mp (checkTip_eq hm).symm
  have h' := beq_iff_eq.mp (checkTip_eq hm').symm
  exact sameBodies_of_tip hinj hR hR' (h.symm.trans h')

/-- Tamper evidence. With an injective digest, two accepted record lists that
match one anchor have the same length and pairwise the same hash bodies; and
once a log has verified against its anchor, every log with other bodies is
rejected against that anchor, whatever hashes it stores. -/
theorem tampered_log_rejected (H : Digest) (hinj : Function.Injective H.hexdigest) :
    (∀ (R R' : List WFDict) (tip : Dict), (verifyChain H (R.map Subtype.val)).1 = true →
      (verifyChain H (R'.map Subtype.val)).1 = true →
      checkTip (R.map Subtype.val) tip = .ok (true, true) →
      checkTip (R'.map Subtype.val) tip = .ok (true, true) →
      R.length = R'.length ∧ SameBodies (R.map Subtype.val) (R'.map Subtype.val)) ∧
    ∀ (s s' : Store) (result : VerifyResult) (records records' : List Dict),
      verifyAuditWithTip H s = .ok result → result.tipPresent = true → result.verified = true →
      readAuditRecords s.log = .ok records → readAuditRecords s'.log = .ok records' →
      s'.tip = s.tip → ¬ SameBodies records records' →
      ∃ result', verifyAuditWithTip H s' = .ok result' ∧ result'.verified = false := by
  refine ⟨fun R R' tip hR hR' hm hm' => ?_, ?_⟩
  · have hsame := sameBodies_of_checkTip hinj hR hR' hm hm'
    exact ⟨by simpa using hsame.length_eq, hsame⟩
  · intro s s' result records records' hres hpresent hver hread hread' htip hdiff
    obtain ⟨text, tip, tipMatch, countMatch, htext, hload, hcheck, hiff⟩ :=
      verifyAuditWithTip_verified hres hpresent
    obtain ⟨hchain, rfl, rfl⟩ := hiff.mp hver
    rw [readAuditRecords_eq htext] at hread
    obtain rfl := Except.ok.inj hread
    obtain ⟨text', htext', rfl⟩ := readAuditRecords_inv hread'
    obtain ⟨m', hcheck'⟩ := checkTip_total hcheck (auditRecords text')
    obtain ⟨result', hres', hpresent'⟩ :=
      verifyAuditWithTip_total (H := H) htext' (htip ▸ hload) hcheck'
    refine ⟨result', hres', ?_⟩
    obtain ⟨text2, tip2, tm, cm, htext2, hload2, hcheck2, hiff'⟩ :=
      verifyAuditWithTip_verified hres' hpresent'
    obtain rfl : text' = text2 := Option.some.inj (htext'.symm.trans htext2)
    obtain rfl : tip = tip2 := by
      rw [htip, hload] at hload2
      exact Option.some.inj (Except.ok.inj hload2)
    by_contra hne
    obtain ⟨hchain', rfl, rfl⟩ := hiff'.mp (by simpa using hne)
    obtain ⟨R, hR⟩ := exists_wfDict _ text rfl
    obtain ⟨R', hR'⟩ := exists_wfDict _ text' rfl
    rw [← hR] at hchain hcheck hdiff
    rw [← hR'] at hchain' hcheck2 hdiff
    exact hdiff (sameBodies_of_checkTip hinj hchain hchain' hcheck hcheck2)

/-! ## An injective digest -/

/-- Two hexadecimal digits for each byte. -/
def byteDigits (bytes : List UInt8) : List Char :=
  bytes.flatMap fun x => [hexDigit (x.toNat / 16), hexDigit x.toNat]

theorem byteDigits_cons (x : UInt8) (xs : List UInt8) :
    byteDigits (x :: xs) = hexDigit (x.toNat / 16) :: hexDigit x.toNat :: byteDigits xs := rfl

theorem isSome_hexValue_byteDigits {bytes : List UInt8} {c : Char} (hc : c ∈ byteDigits bytes) :
    (hexValue c).isSome := by
  obtain ⟨x, -, hx⟩ := List.mem_flatMap.mp hc
  simp only [List.mem_cons, List.not_mem_nil, or_false] at hx
  rcases hx with rfl | rfl
  · rw [hexValue_hexDigit]; rfl
  · rw [hexValue_hexDigit]; rfl

theorem hexDigit_eq_imp {m n : Nat} (h : hexDigit m = hexDigit n) : m % 16 = n % 16 := by
  have hv := hexValue_hexDigit m
  rw [h, hexValue_hexDigit] at hv
  exact (Option.some.inj hv).symm

theorem byteDigits_injective : Function.Injective byteDigits := by
  intro xs
  induction xs with
  | nil =>
    intro ys h
    cases ys with
    | nil => rfl
    | cons y ys => exact absurd h.symm (List.cons_ne_nil _ _)
  | cons x xs ih =>
    intro ys h
    cases ys with
    | nil => exact absurd h (List.cons_ne_nil _ _)
    | cons y ys =>
      rw [byteDigits_cons, byteDigits_cons, List.cons.injEq, List.cons.injEq] at h
      obtain ⟨h1, h2, h3⟩ := h
      have hx := x.toNat_lt
      have hy := y.toNat_lt
      have hdiv := hexDigit_eq_imp h1
      have hmod := hexDigit_eq_imp h2
      have hxy : x = y := UInt8.toNat_inj.mp (by omega)
      rw [hxy, ih h3]

/-- The digits of a byte string behind 64 zeros. -/
def plainDigits (b : ByteArray) : String :=
  .ofList (List.replicate 64 '0' ++ byteDigits b.data.toList)

theorem plainDigits_hex (b : ByteArray) : ∀ c ∈ (plainDigits b).toList, (hexValue c).isSome := by
  intro c hc
  rw [plainDigits, String.toList_ofList] at hc
  rcases List.mem_append.mp hc with hc | hc
  · rw [List.eq_of_mem_replicate hc]
    rfl
  · exact isSome_hexValue_byteDigits hc

theorem plainDigits_long (b : ByteArray) : 64 ≤ (plainDigits b).toList.length := by
  rw [plainDigits, String.toList_ofList, List.length_append, List.length_replicate]
  omega

/-- A digest without collisions. -/
def plainDigest : Digest where
  hexdigest := plainDigits
  hex := plainDigits_hex
  long := plainDigits_long

theorem plainDigest_injective : Function.Injective plainDigest.hexdigest := by
  intro b b' h
  have hdigits := List.append_cancel_left (String.ofList_injective h)
  have hdata := byteDigits_injective hdigits
  exact ByteArray.ext (Array.toList_inj.mp hdata)

/-- The body of a record does not show what it is chained to. -/
theorem auditHashBody_newRecord (H : Digest) (call : Call) (stamp : Stamp) (prev prev' : String) :
    auditHashBody (newRecord H call stamp prev).modelDump =
      auditHashBody (newRecord H call stamp prev').modelDump := rfl

/-- The anchor of a log with one record rejects a log with another, chained
just as well. -/
theorem tampered_log_rejected_forgery : ∃ s s' : Store, s'.tip = s.tip ∧
    (∃ result, verifyAuditWithTip plainDigest s = .ok result ∧ result.verified = true) ∧
    ∃ result', verifyAuditWithTip plainDigest s' = .ok result' ∧ result'.verified = false := by
  have run : ∀ call : Call, call.SeparatorFree →
      RunLaw plainDigest ⟨.lf, "custody.jsonl"⟩ [(call, sampleStamp)] := fun call h =>
    runLaw_of_separatorFree _ _ (by simpa using h)
  obtain ⟨records, s, hrun, -, hread, -, result, hres, hver, hpresent, -, -⟩ :=
    run { actionType := .eventReceived, traceId := "a" } (by decide)
  obtain ⟨records', s', hrun', -, hread', -, -⟩ :=
    run { actionType := .eventReceived, traceId := "b" } (by decide)
  obtain ⟨-, hrecs, -⟩ := appendAll_inv (s := ⟨none, none⟩) rfl hrun
  obtain ⟨-, hrecs', -⟩ := appendAll_inv (s := ⟨none, none⟩) rfl hrun'
  refine ⟨s, ⟨s'.log, s.tip⟩, rfl, ⟨result, hres, hver⟩,
    (tampered_log_rejected plainDigest plainDigest_injective).2 s ⟨s'.log, s.tip⟩ result _ _ hres
      hpresent hver hread hread' rfl ?_⟩
  intro hsame
  cases hrecs with
  | cons h1 hnil =>
    cases hrecs' with
    | cons h1' hnil' =>
      obtain ⟨prev, rfl⟩ := h1
      obtain ⟨prev', rfl⟩ := h1'
      cases hsame with
      | cons hbody _ =>
        rw [auditHashBody_newRecord _ _ _ prev "", auditHashBody_newRecord _ _ _ prev' ""] at hbody
        have htext := congrArg (dumps .compact) hbody
        exact absurd htext (by decide +kernel)

/-! ## What is not hashed is not checked -/

theorem verifyChainFrom_congr {H : Digest} {R R' : List Dict}
    (h : R.map chainRow = R'.map chainRow) (prev : String) (idx : Nat) :
    verifyChainFrom H prev idx R = verifyChainFrom H prev idx R' := by
  induction R generalizing R' prev idx with
  | nil =>
    cases R' with
    | nil => rfl
    | cons r' rs' => exact absurd h (by simp)
  | cons r rs ih =>
    cases R' with
    | nil => exact absurd h (by simp)
    | cons r' rs' =>
      obtain ⟨hrow, hrest⟩ := List.cons.inj h
      obtain ⟨hbody, hhash⟩ := Prod.mk.inj hrow
      simp only [verifyChainFrom, hbody, hhash]
      rw [ih hrest]

/-- Neither the body nor the stored hash sees `previous_hash`. -/
theorem chainRow_previousHash (rec : Dict) (v : Value) :
    chainRow (rec.set "previous_hash" v) = chainRow rec := by
  have hbody : auditHashBody (rec.set "previous_hash" v) = auditHashBody rec :=
    Dict.filter_set (p := fun k => !hashChainExcludedFields.contains k) (by decide) rec v
  have hhash : currentHashOf (rec.set "previous_hash" v) = currentHashOf rec := by
    unfold currentHashOf
    rw [Dict.get?_set_of_ne v (by decide)]
  unfold chainRow
  rw [hbody, hhash]

/-- The log with the `previous_hash` of one record altered. -/
def alterPreviousHash (R : List Dict) (i : Nat) (v : Value) : List Dict :=
  R.modify i fun rec => rec.set "previous_hash" v

/-- `verify_chain` gives the same answer whatever stands in `previous_hash`. -/
theorem verifyChain_previousHash (H : Digest) (R : List Dict) (i : Nat) (v : Value) :
    verifyChain H (alterPreviousHash R i v) = verifyChain H R := by
  refine verifyChainFrom_congr ?_ _ _
  refine List.ext_getElem (by simp [alterPreviousHash]) fun j h1 h2 => ?_
  simp only [alterPreviousHash, List.getElem_map, List.getElem_modify]
  split
  · exact chainRow_previousHash _ v
  · rfl

/-- The hash a record's `previous_hash` should repeat. -/
def predecessorHash (R : List Dict) (i : Nat) : String :=
  ((R.take i).getLast?.map currentHashOf).getD "genesis"

/-- Every record repeats its predecessor's hash, the first one `genesis`. -/
def Linked (R : List Dict) : Prop :=
  ∀ i (h : i < R.length), Dict.get? R[i] "previous_hash" = some (.str (predecessorHash R i))

/-- Altering a record leaves the records before it, and so the hash that belongs
into it. -/
theorem predecessorHash_alter (R : List Dict) (i : Nat) (v : Value) :
    predecessorHash (alterPreviousHash R i v) i = predecessorHash R i := by
  have htake : (alterPreviousHash R i v).take i = R.take i := by
    refine List.ext_getElem (by simp [alterPreviousHash]) fun j h1 h2 => ?_
    have hj : j < i := by
      rw [List.length_take] at h2
      omega
    simp only [alterPreviousHash, List.getElem_take, List.getElem_modify]
    rw [if_neg (by omega)]
  unfold predecessorHash
  rw [htake]

/-- Altering `previous_hash` anywhere in an accepted log leaves it accepted, and
unless the new value is the hash that belongs there, it is linked no more. -/
theorem altered_previousHash_accepted (H : Digest) (R : List Dict) (i : Nat) (v : Value)
    (haccepted : (verifyChain H R).1 = true) (hi : i < R.length) :
    (verifyChain H (alterPreviousHash R i v)).1 = true ∧
      (v ≠ .str (predecessorHash R i) → ¬ Linked (alterPreviousHash R i v)) := by
  constructor
  · rw [verifyChain_previousHash, haccepted]
  · intro hv hlinked
    have hi' : i < (alterPreviousHash R i v).length := by simpa [alterPreviousHash] using hi
    have hself : (alterPreviousHash R i v)[i] = (R[i]).set "previous_hash" v := by
      simp [alterPreviousHash]
    have hget := hlinked i hi'
    rw [hself, Dict.get?_set_self, predecessorHash_alter] at hget
    exact hv (Option.some.inj hget)

/-- The log of one call with default arguments. -/
def oneRecordLog : List Dict :=
  [(newRecord sha256 { actionType := .eventReceived } sampleStamp "genesis").modelDump]

theorem oneRecordLog_accepted : (verifyChain sha256 oneRecordLog).1 = true := by
  have hempty : (verifyChain sha256 []).1 = true := rfl
  exact verifyChain_concat { actionType := .eventReceived } sampleStamp hempty

/-- In that log the first record may claim any predecessor at all. -/
theorem altered_previousHash_accepted_oneRecord :
    (verifyChain sha256 (alterPreviousHash oneRecordLog 0 .none)).1 = true ∧
      ¬ Linked (alterPreviousHash oneRecordLog 0 .none) := by
  obtain ⟨haccepted, hunlinked⟩ :=
    altered_previousHash_accepted sha256 oneRecordLog 0 .none oneRecordLog_accepted (by decide)
  exact ⟨haccepted, hunlinked (by simp)⟩

/-- An accepted log that is not linked. -/
theorem accepted_log_not_linked :
    ¬ ∀ R : List Dict, (verifyChain sha256 R).1 = true → Linked R := by
  intro h
  have haccepted : (verifyChain sha256 (alterPreviousHash oneRecordLog 0 (.str "forged"))).1 =
      true := by
    rw [verifyChain_previousHash]
    exact oneRecordLog_accepted
  have hfirst := h _ haccepted 0 (by decide)
  have hstored : Dict.get? (alterPreviousHash oneRecordLog 0 (.str "forged"))[0] "previous_hash" =
      some (.str "forged") := rfl
  rw [hstored] at hfirst
  have hgenesis : predecessorHash (alterPreviousHash oneRecordLog 0 (.str "forged")) 0 =
      "genesis" := rfl
  rw [hgenesis] at hfirst
  exact absurd hfirst (by simp)

end Audit
