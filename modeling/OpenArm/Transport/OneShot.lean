/-
  OpenArm.Transport.OneShot — one grant, one dangerous frame.

  What a thread knows is a fact about the run so far: a grant in `grants_`
  was emplaced and not touched since, a reading was made in this call, and a
  grant that was erased has not been used yet.  So a dangerous frame that
  reaches a backend can be traced back to the emplacement of its grant.

  Main results:
    * `Consumes.unique` — a grant is consumed by one send.
    * `one_shot`        — every interleaving of the calls on any transports.
-/
import OpenArm.Lib.History
import OpenArm.Transport.Views

namespace OpenArm.Transport

open OpenArm.Lib OpenArm.Can

variable {X T : Type} [DecidableEq X] [DecidableEq T]

/-! ## §1. What labels say. -/

/-- The label changes what `grants_` of a transport holds under a token. -/
def touches (x : X) (tokenId : Nat) : TransportLabel X T → Prop
  | .act _ (.emplaceGrant y id _) true => y = x ∧ id = tokenId
  | .act _ (.eraseGrant y id) _ => y = x ∧ id = tokenId
  | .act _ (.clearGrants y) _ => y = x
  | _ => False

/-- The label emplaces a grant. -/
def emplaces (x : X) (tokenId : Nat) (grant : Grant) (l : TransportLabel X T) : Prop :=
  ∃ u, l = .act u (.emplaceGrant x tokenId grant) true

/-- Thread `t` reads the clock of a transport. -/
def reads (t : T) (x : X) (nowNs : Nat) (l : TransportLabel X T) : Prop :=
  l = .act t (.backendNow x) (.ok, nowNs)

/-- Thread `t` erases the grant under a token. -/
def erases (t : T) (x : X) (tokenId : Nat) (l : TransportLabel X T) : Prop :=
  l = .act t (.eraseGrant x tokenId) ()

/-- Thread `t` neither starts another call nor reads a clock again. -/
def keepsReading (t : T) : TransportLabel X T → Prop
  | .start u _ => u ≠ t
  | .act u (.backendNow _) _ => u ≠ t
  | _ => True

/-- Thread `t` neither starts another call nor erases another grant nor
    sends. -/
def keepsErasure (t : T) : TransportLabel X T → Prop
  | .start u _ => u ≠ t
  | .act u (.eraseGrant ..) _ => u ≠ t
  | .act u (.backendSend ..) _ => u ≠ t
  | _ => True

/-- **The send at `k` consumes the grant emplaced at `i`.**  The thread that
    sends has read the clock and erased the grant in the same call, and has
    sent nothing since; the grant was made by the same transport for the same
    frame and class, had not expired at the reading, and outlasts the
    deadline. -/
def Consumes (es : List (TransportLabel X T)) (k i : Nat) : Prop :=
  ∃ t x frame deadlineNs sent cls tokenId grant nowNs j p,
    es[k]? = some (.act t (.backendSend x frame deadlineNs) sent) ∧
    classify frame = .ok cls ∧ grant.Covers frame cls nowNs deadlineNs ∧
    SinceAt (keepsReading t) (reads t x nowNs) (es.take k) p ∧
    SinceAt (keepsErasure t) (erases t x tokenId) (es.take k) j ∧
    SinceAt (fun l => ¬ touches x tokenId l) (emplaces x tokenId grant) (es.take j) i

omit [DecidableEq X] [DecidableEq T] in
/-- **A grant is consumed once.** -/
theorem Consumes.unique {es : List (TransportLabel X T)} {k k' i : Nat} (h : Consumes es k i)
    (h' : Consumes es k' i) : k = k' := by
  obtain ⟨t, x, frame, deadlineNs, sent, cls, id, grant, nowNs, j, p, hsend, -, -, -, hj, hi⟩ := h
  obtain ⟨t', x', frame', deadlineNs', sent', cls', id', grant', nowNs', j', p', hsend', -, -, -,
    hj', hi'⟩ := h'
  -- Both sends trace back to the same emplacement,
  obtain ⟨_, hfirst, ⟨u, rfl⟩, hij⟩ := hi.begins
  obtain ⟨_, hfirst', ⟨u', rfl⟩, hij'⟩ := hi'.begins
  rw [hfirst] at hfirst'
  cases hfirst'
  -- so to the same erasure, the first label after it that touches the grant,
  obtain ⟨_, herase, rfl, hjk⟩ := hj.begins
  obtain ⟨_, herase', rfl, hjk'⟩ := hj'.begins
  have hle : j' ≤ j := hi'.ends herase hij fun hnot => hnot ⟨rfl, rfl⟩
  have hge : j ≤ j' := hi.ends herase' hij' fun hnot => hnot ⟨rfl, rfl⟩
  obtain rfl : j = j' := Nat.le_antisymm hge hle
  rw [herase] at herase'
  cases herase'
  -- and so are the same, the first send after it.
  have hle : k' ≤ k := hj'.ends hsend hjk fun hkeeps => hkeeps rfl
  have hge : k ≤ k' := hj.ends hsend' hjk' fun hkeeps => hkeeps rfl
  exact Nat.le_antisymm hge hle

omit [DecidableEq X] [DecidableEq T] in
/-- It stays consumed. -/
theorem Consumes.snoc {es : List (TransportLabel X T)} {l : TransportLabel X T}
    {k i : Nat} (h : Consumes es k i) : Consumes (es ++ [l]) k i := by
  obtain ⟨t, x, frame, deadlineNs, sent, cls, id, grant, nowNs, j, p, hsend, hclass, hcovers, hp, hj,
    hi⟩ := h
  have hk : k ≤ es.length := Nat.le_of_lt (List.getElem?_eq_some_iff.mp hsend).1
  obtain ⟨_, -, -, hjk⟩ := hj.begins
  have htake : ∀ n, n ≤ k → (es ++ [l]).take n = es.take n := fun n hn =>
    List.take_append_of_le_length (Nat.le_trans hn hk)
  refine ⟨t, x, frame, deadlineNs, sent, cls, id, grant, nowNs, j, p, getElem?_left hsend _, hclass,
    hcovers, ?_⟩
  rw [htake k (Nat.le_refl k), htake j (Nat.le_of_lt hjk)]
  exact ⟨hp, hj, hi⟩

/-! ## §2. What the views remember. -/

/-- The grants and the views as facts about the run so far. -/
structure Recorded (s : Transports X T) (views : T → View X) (es : List (TransportLabel X T)) :
    Prop where
  standing : ∀ x tokenId grant, (s x).grants tokenId = some grant →
    ∃ i, SinceAt (fun l => ¬ touches x tokenId l) (emplaces x tokenId grant) es i
  clock : ∀ t x nowNs, (views t).clock = some (x, nowNs) →
    ∃ p, SinceAt (keepsReading t) (reads t x nowNs) es p
  consumed : ∀ t x tokenId grant, (views t).consumed = some (x, tokenId, grant) →
    ∃ j, SinceAt (keepsErasure t) (erases t x tokenId) es j ∧
      ∃ i, SinceAt (fun l => ¬ touches x tokenId l) (emplaces x tokenId grant) (es.take j) i

section

omit [DecidableEq T]

/-- What an action does to a grant. -/
theorem perform_grants {s s' : Transports X T} {t : T} {o : Op X} {c : Choice} {r : o.Reply}
    (h : s.perform t o c = some (r, s')) {x : X} {tokenId : Nat} {grant : Grant}
    (hgrant : (s' x).grants tokenId = some grant) :
    emplaces (T := T) x tokenId grant (.act t o r) ∨
      (s x).grants tokenId = some grant ∧ ¬ touches (T := T) x tokenId (.act t o r) := by
  cases o with
  | lock y mutex =>
    simp only [Transports.perform] at h
    split at h
    · cases h
    cases h
    exact .inr ⟨by simpa using hgrant, id⟩
  | unlock y mutex =>
    cases h
    exact .inr ⟨by simpa using hgrant, id⟩
  | lockOperations y =>
    simp only [Transports.perform] at h
    split at h
    · cases h
    cases h
    exact .inr ⟨by simpa using hgrant, id⟩
  | loadClosed y =>
    cases h
    exact .inr ⟨hgrant, id⟩
  | storeClosed y =>
    cases h
    exact .inr ⟨by simpa using hgrant, id⟩
  | backendClose y =>
    cases h
    exact .inr ⟨hgrant, id⟩
  | findGrant y id' =>
    cases h
    exact .inr ⟨hgrant, id⟩
  -- grants go one at a time, or all with `clear`
  | eraseGrant y id' =>
    cases h
    rw [Transports.setGrant_grants] at hgrant
    split at hgrant
    · cases hgrant
    · rename_i hother
      exact .inr ⟨hgrant, fun h => hother ⟨h.1.symm, h.2.symm⟩⟩
  | emplaceGrant y id' grant' =>
    obtain ⟨ok, -, h⟩ := Option.map_eq_some_iff.mp h
    cases ok with
    | false =>
      cases h
      exact .inr ⟨hgrant, id⟩
    | true =>
      cases h
      rw [if_pos rfl, Transports.setGrant_grants] at hgrant
      split at hgrant
      · rename_i hsame
        cases hgrant
        obtain ⟨rfl, rfl⟩ := hsame
        exact .inl ⟨t, rfl⟩
      · rename_i hother
        exact .inr ⟨hgrant, fun h => hother ⟨h.1.symm, h.2.symm⟩⟩
  | clearGrants y =>
    cases h
    rw [Transports.clear_grants] at hgrant
    split at hgrant
    · cases hgrant
    · rename_i hother
      exact .inr ⟨hgrant, fun h => hother h.symm⟩
  -- questions to the backend touch no grant
  | backendNow y => exact .inr ⟨map_same h ▸ hgrant, id⟩
  | backendSend y frame deadlineNs => exact .inr ⟨map_same h ▸ hgrant, id⟩
  | backendReceive y deadlineNs => exact .inr ⟨map_same h ▸ hgrant, id⟩
  | permitsAuthorityIssuance y => exact .inr ⟨map_same h ▸ hgrant, id⟩
  | secureRandom64 => exact .inr ⟨map_same h ▸ hgrant, id⟩
  | newAuthority => exact .inr ⟨map_same h ▸ hgrant, id⟩

/-- A reading is the last one the thread made. -/
theorem after_clock {v : View X} {t : T} {o : Op X} {r : o.Reply} {x : X} {nowNs : Nat}
    (h : (v.after o r).clock = some (x, nowNs)) :
    reads t x nowNs (.act t o r) ∨
      v.clock = some (x, nowNs) ∧ keepsReading (T := T) t (.act t o r) := by
  cases o with
  | backendNow y =>
    obtain ⟨status, reading⟩ := r
    change (if status = .ok then some (y, reading) else none) = _ at h
    split at h
    · rename_i hok
      cases h
      rw [hok]
      exact .inl rfl
    · cases h
  | _ => exact .inr ⟨h, trivial⟩

/-- A consumed grant is the last one the thread found and erased. -/
theorem after_consumed {v : View X} {t : T} {o : Op X} {r : o.Reply} {x : X} {tokenId : Nat}
    {grant : Grant} (h : (v.after o r).consumed = some (x, tokenId, grant)) :
    (erases t x tokenId (.act t o r) ∧ v.found = some (x, tokenId, some grant)) ∨
      v.consumed = some (x, tokenId, grant) ∧ keepsErasure (T := T) t (.act t o r) := by
  cases o with
  | eraseGrant y id =>
    change v.removes y id = _ at h
    unfold View.removes at h
    split at h
    · rename_i hfound
      split at h
      · rename_i hsame
        cases h
        rw [hsame.1, hsame.2] at hfound
        exact .inl ⟨rfl, hfound⟩
      · cases h
    · cases h
  | backendSend y frame deadlineNs => cases h
  | _ => exact .inr ⟨h, trivial⟩

end

omit [DecidableEq X] [DecidableEq T] in
/-- Another thread's action keeps a reading and an erasure. -/
theorem keeps_other {t u : T} (hne : u ≠ t) (o : Op X) (r : o.Reply) :
    keepsReading u (.act t o r) ∧ keepsErasure u (.act t o r) := by
  cases o <;> first | exact ⟨trivial, trivial⟩ | exact ⟨hne.symm, trivial⟩ | exact ⟨trivial, hne.symm⟩

section Steps

variable {s s' : Transports X T} {views : T → View X} {es : List (TransportLabel X T)}

omit [DecidableEq X] [DecidableEq T] in
theorem take_snoc {j : Nat} (hj : j < es.length) (l : TransportLabel X T) :
    (es ++ [l]).take j = es.take j :=
  List.take_append_of_le_length (Nat.le_of_lt hj)

omit [DecidableEq X] [DecidableEq T] in
/-- A step that touches no member, and forgets or keeps what each thread
    remembers. -/
theorem Recorded.idle (h : Recorded s views es) {views' : T → View X} {l : TransportLabel X T}
    (htouch : ∀ x tokenId, ¬ touches x tokenId l)
    (hclock : ∀ u x nowNs, (views' u).clock = some (x, nowNs) →
      (views u).clock = some (x, nowNs) ∧ keepsReading u l)
    (hconsumed : ∀ u x tokenId grant, (views' u).consumed = some (x, tokenId, grant) →
      (views u).consumed = some (x, tokenId, grant) ∧ keepsErasure u l) :
    Recorded s views' (es ++ [l]) := by
  refine ⟨fun x id grant hgrant => ?_, fun u x nowNs hc => ?_, fun u x id grant hc => ?_⟩
  · obtain ⟨i, hi⟩ := h.standing x id grant hgrant
    exact ⟨i, hi.snoc (htouch x id)⟩
  · obtain ⟨hold, hkeeps⟩ := hclock u x nowNs hc
    obtain ⟨p, hp⟩ := h.clock u x nowNs hold
    exact ⟨p, hp.snoc hkeeps⟩
  · obtain ⟨hold, hkeeps⟩ := hconsumed u x id grant hc
    obtain ⟨j, hj, hi⟩ := h.consumed u x id grant hold
    refine ⟨j, hj.snoc hkeeps, ?_⟩
    rw [take_snoc hj.lt]
    exact hi

/-- **An action is recorded.** -/
theorem Recorded.act (h : Recorded s views es) {t : T} {o : Op X} {c : Choice} {r : o.Reply}
    (hk : Knows s t (views t)) (hp : s.perform t o c = some (r, s')) :
    Recorded s' (Function.update views t ((views t).after o r)) (es ++ [.act t o r]) := by
  refine ⟨fun x id grant hgrant => ?_, fun u x nowNs hc => ?_, fun u x id grant hc => ?_⟩
  · rcases perform_grants hp hgrant with hnew | ⟨hold, hkeeps⟩
    · exact ⟨_, .now hnew⟩
    · obtain ⟨i, hi⟩ := h.standing x id grant hold
      exact ⟨i, hi.snoc hkeeps⟩
  · by_cases hu : u = t
    · subst hu
      rw [Function.update_self] at hc
      rcases after_clock (t := u) hc with hnew | ⟨hold, hkeeps⟩
      · exact ⟨_, .now hnew⟩
      · obtain ⟨p, hp⟩ := h.clock u x nowNs hold
        exact ⟨p, hp.snoc hkeeps⟩
    · rw [Function.update_of_ne hu] at hc
      obtain ⟨p, hp⟩ := h.clock u x nowNs hc
      exact ⟨p, hp.snoc (keeps_other hu o r).1⟩
  · by_cases hu : u = t
    · subst hu
      rw [Function.update_self] at hc
      rcases after_consumed (t := u) hc with ⟨hnew, hfound⟩ | ⟨hold, hkeeps⟩
      · -- What was found is what stands, since the mutex is still held.
        obtain ⟨i, hi⟩ := h.standing x id grant (hk.found x id (some grant) hfound).2
        refine ⟨es.length, .now hnew, i, ?_⟩
        rw [List.take_left]
        exact hi
      · obtain ⟨j, hj, hi⟩ := h.consumed u x id grant hold
        refine ⟨j, hj.snoc hkeeps, ?_⟩
        rw [take_snoc hj.lt]
        exact hi
    · rw [Function.update_of_ne hu] at hc
      obtain ⟨j, hj, hi⟩ := h.consumed u x id grant hc
      refine ⟨j, hj.snoc (keeps_other hu o r).2, ?_⟩
      rw [take_snoc hj.lt]
      exact hi

/-- A transport whose `closed_` is set and that no send has got past. -/
def Drained (s : Transports X T) (views : T → View X) (x : X) : Prop :=
  (s x).closed = true ∧ ∀ u, x ∉ (views u).passed

/-- A drained transport stays drained. -/
theorem Drained.act {x : X} (h : Drained s views x) {t : T} {o : Op X} {c : Choice} {r : o.Reply}
    (hk : Knows s t (views t)) (ha : (views t).allows o) (hp : s.perform t o c = some (r, s')) :
    Drained s' (Function.update views t ((views t).after o r)) x := by
  refine ⟨(perform_beside hk ha hp).closed x h.1, fun u hu => ?_⟩
  by_cases hut : u = t
  · subst hut
    rw [Function.update_self] at hu
    cases o with
    | unlock y mutex => exact h.2 u hu.1
    | loadClosed y =>
      cases hp
      rcases hu with hu | ⟨rfl, hopen, -⟩
      · exact h.2 u hu
      · rw [h.1] at hopen
        cases hopen
    | _ => exact h.2 u hu
  · rw [Function.update_of_ne hut] at hu
    exact h.2 u hu

omit [DecidableEq T] in
/-- Both operation mutexes of a transport that is shut were free, so it is
    drained. -/
theorem perform_drained {x : X} {t : T} {o : Op X} {c : Choice} {r : o.Reply}
    (hk : ∀ u, Knows s u (views u)) (hp : s.perform t o c = some (r, s'))
    (hnew : x ∈ ((views t).after o r).drained) (hold : x ∉ (views t).drained) :
    Drained s views x := by
  cases o with
  | lockOperations y =>
    obtain ⟨rfl, hstored⟩ := hnew.resolve_left hold
    refine ⟨(hk t).stored x hstored, fun u hu => ?_⟩
    simp only [Transports.perform] at hp
    split at hp
    · cases hp
    rename_i hfree
    have hheld := ((hk u).holds x .send).mpr ((hk u).passed x hu)
    exact hfree (.inl (by rw [hheld]; rfl))
  | _ => exact absurd hnew hold

end Steps

/-! ## §3. Runs. -/

/-- What each thread knows after a run. -/
def known (es : List (TransportLabel X T)) : T → View X :=
  (shots X).views (fun _ => View.fresh) es

/-- A dangerous send consumes a grant, and a frame that is not known or that
    moves a motor is not sent. -/
def Traced (es : List (TransportLabel X T)) : Prop :=
  ∀ k t x frame deadlineNs sent, es[k]? = some (.act t (.backendSend x frame deadlineNs) sent) →
    ∃ cls, classify frame = .ok cls ∧ cls ≠ .unknown ∧ cls ≠ .motion ∧
      (dangerousClass cls = true → ∃ i, Consumes es k i)

/-- A closed transport is drained, and its sends lie before the end of the
    close. -/
def Sealed (s : Transports X T) (views : T → View X) (es : List (TransportLabel X T)) : Prop :=
  ∀ (n : Nat) (t : T) (x : X), es[n]? = some (.finish t (.closed x)) → Drained s views x ∧
    ∀ (k : Nat) (u : T) (frame : Frame) (deadlineNs : Nat) (sent : Status × Nat),
      es[k]? = some (.act u (.backendSend x frame deadlineNs) sent) → k < n

/-- The invariant of a run. -/
structure Safe (es : List (TransportLabel X T)) (m : Calls X T) : Prop where
  knows : ∀ t, Knows m.shared t (known es t)
  recorded : Recorded m.shared (known es) es
  drained : ∀ t, ∀ x ∈ (known es t).drained, Drained m.shared (known es) x
  traced : Traced es
  closed : Sealed m.shared (known es) es

section

omit [DecidableEq X] [DecidableEq T]

/-- One more label that is no send. -/
theorem Traced.snoc {es : List (TransportLabel X T)} (h : Traced es) {l : TransportLabel X T}
    (hl : ∀ t x frame deadlineNs sent, l ≠ .act t (.backendSend x frame deadlineNs) sent) :
    Traced (es ++ [l]) := by
  intro k t x frame deadlineNs sent hk
  rcases getElem?_snoc hk with hk | ⟨-, hk⟩
  · obtain ⟨cls, hclass, hunknown, hmotion, hgrant⟩ := h k t x frame deadlineNs sent hk
    exact ⟨cls, hclass, hunknown, hmotion, fun hd => (hgrant hd).imp fun i hi => hi.snoc⟩
  · exact absurd hk.symm (hl t x frame deadlineNs sent)

/-- **A send that a view allows is traced.** -/
theorem Traced.send {s : Transports X T} {views : T → View X} {es : List (TransportLabel X T)}
    (h : Traced es) (hr : Recorded s views es) {t : T} {x : X} {frame : Frame}
    {deadlineNs : Nat} (ha : (views t).allows (.backendSend x frame deadlineNs))
    (sent : Status × Nat) :
    Traced (es ++ [.act t (.backendSend x frame deadlineNs) sent]) := by
  intro k u y frame' deadlineNs' sent' hk
  rcases getElem?_snoc hk with hk | ⟨hlast, hk⟩
  · obtain ⟨cls, hclass, hunknown, hmotion, hgrant⟩ := h k u y frame' deadlineNs' sent' hk
    exact ⟨cls, hclass, hunknown, hmotion, fun hd => (hgrant hd).imp fun i hi => hi.snoc⟩
  · cases hk
    subst hlast
    obtain ⟨-, cls, hclass, hunknown, hmotion, hdangerous⟩ := ha
    refine ⟨cls, hclass, hunknown, hmotion, fun hd => ?_⟩
    obtain ⟨id, grant, nowNs, hconsumed, hclock, hcovers⟩ := hdangerous hd
    obtain ⟨p, hp⟩ := hr.clock t x nowNs hclock
    obtain ⟨j, hj, i, hi⟩ := hr.consumed t x id grant hconsumed
    refine ⟨i, t, x, frame, deadlineNs, sent, cls, id, grant, nowNs, j, p,
      List.getElem?_concat_length, hclass, hcovers, ?_⟩
    rw [List.take_left, take_snoc hj.lt]
    exact ⟨hp, hj, hi⟩

/-- What was sealed stays sealed as long as nothing is sent past a shut
    transport. -/
theorem Sealed.snoc {s s' : Transports X T} {views views' : T → View X}
    {es : List (TransportLabel X T)} (h : Sealed s views es) {l : TransportLabel X T}
    (hdrained : ∀ x, Drained s views x → Drained s' views' x)
    (hsend : ∀ t x frame deadlineNs sent, l = .act t (.backendSend x frame deadlineNs) sent →
      x ∈ (views t).passed)
    (hfinish : ∀ t x, l = .finish t (.closed x) → Drained s views x) :
    Sealed s' views' (es ++ [l]) := by
  intro n t x hn
  rcases getElem?_snoc hn with hn | ⟨rfl, hlast⟩
  · obtain ⟨hx, hbefore⟩ := h n t x hn
    refine ⟨hdrained x hx, fun k u frame deadlineNs sent hk => ?_⟩
    rcases getElem?_snoc hk with hk | ⟨-, hk⟩
    · exact hbefore k u frame deadlineNs sent hk
    · exact absurd (hsend u x frame deadlineNs sent hk.symm) (hx.2 u)
  · refine ⟨hdrained x (hfinish t x hlast.symm), fun k u frame deadlineNs sent hk => ?_⟩
    rcases getElem?_snoc hk with hk | ⟨-, hk⟩
    · exact (List.getElem?_eq_some_iff.mp hk).1
    · rw [← hlast] at hk
      cases hk

end

/-- Transports as they are constructed. -/
theorem Safe.init {I : Instances X} {m : Calls X T} (h : (transportSystem T I).init m) :
    Safe [] m := by
  obtain ⟨hshared, -⟩ := h
  refine ⟨fun t => ⟨fun x mutex => ?_, nofun, nofun, nofun⟩,
    ⟨fun x id grant hg => ?_, nofun, nofun⟩,
    nofun, fun k t x frame deadlineNs sent hk => ?_, fun n t x hn => ?_⟩
  · rw [hshared]
    exact ⟨nofun, nofun⟩
  · rw [hshared] at hg
    cases hg
  · cases hk
  · cases hn

/-- A step that performs no action: each thread keeps its view, or starts a
    call. -/
theorem Safe.idle {es : List (TransportLabel X T)} {m m' : Calls X T} {l : TransportLabel X T}
    (h : Safe es m) (hshared : m'.shared = m.shared)
    (hviews : ∀ u, (known (es ++ [l]) u = known es u ∧ keepsReading u l ∧ keepsErasure u l) ∨
      known (es ++ [l]) u = (known es u).begins)
    (htouch : ∀ x tokenId, ¬ touches x tokenId l)
    (hsend : ∀ t x frame deadlineNs sent, l ≠ .act t (.backendSend x frame deadlineNs) sent)
    (hfinish : ∀ t x, l = .finish t (.closed x) → x ∈ (known es t).drained) :
    Safe (es ++ [l]) m' := by
  have hpassed : ∀ u, (known (es ++ [l]) u).passed = (known es u).passed := fun u => by
    rcases hviews u with ⟨hu, -⟩ | hu
    · rw [hu]
    · rw [hu]
      rfl
  have hdrained : ∀ x, Drained m.shared (known es) x → Drained m.shared (known (es ++ [l])) x :=
    fun x hx => ⟨hx.1, fun u => by
      rw [hpassed]
      exact hx.2 u⟩
  refine ⟨fun u => ?_, ?_, fun u x hx => ?_, h.traced.snoc hsend, ?_⟩ <;> rw [hshared]
  · have hk := h.knows u
    rcases hviews u with ⟨hu, -⟩ | hu
    · rw [hu]
      exact hk
    · rw [hu]
      exact ⟨hk.holds, hk.passed, nofun, hk.stored⟩
  · refine h.recorded.idle htouch (fun u x nowNs hc => ?_) fun u x id grant hc => ?_
    · rcases hviews u with ⟨hu, hkeeps, -⟩ | hu
      · rw [hu] at hc
        exact ⟨hc, hkeeps⟩
      · rw [hu] at hc
        cases hc
    · rcases hviews u with ⟨hu, -, hkeeps⟩ | hu
      · rw [hu] at hc
        exact ⟨hc, hkeeps⟩
      · rw [hu] at hc
        cases hc
  · refine hdrained x (h.drained u x ?_)
    rcases hviews u with ⟨hu, -⟩ | hu
    · rw [hu] at hx
      exact hx
    · rw [hu] at hx
      exact hx
  · exact h.closed.snoc hdrained (fun t x frame deadlineNs sent hl => absurd hl (hsend _ _ _ _ _))
      fun t x hl => h.drained t x (hfinish t x hl)

/-- **An action a view allows keeps the invariant.** -/
theorem Safe.act {es : List (TransportLabel X T)} {m m' : Calls X T} (h : Safe es m) {t : T}
    {o : Op X} {c : Choice} {r : o.Reply} (ha : (known es t).allows o)
    (hp : m.shared.perform t o c = some (r, m'.shared)) :
    Safe (es ++ [.act t o r]) m' := by
  have hviews : known (es ++ [.act t o r]) =
      Function.update (known es) t ((known es t).after o r) := Discipline.views_snoc _ _ _
  have hdrained : ∀ x, Drained m.shared (known es) x →
      Drained m'.shared (known (es ++ [.act t o r])) x := by
    intro x hx
    rw [hviews]
    exact hx.act (h.knows t) ha hp
  refine ⟨fun u => ?_, ?_, fun u x hx => hdrained x ?_, ?_, ?_⟩
  · rw [hviews]
    by_cases hu : u = t
    · subst hu
      rw [Function.update_self]
      exact perform_knows (h.knows u) ha hp
    · rw [Function.update_of_ne hu]
      exact (h.knows u).beside hu (perform_beside (h.knows t) ha hp)
  · rw [hviews]
    exact h.recorded.act (h.knows t) hp
  · rw [hviews] at hx
    by_cases hu : u = t
    · subst hu
      rw [Function.update_self] at hx
      by_cases hold : x ∈ (known es u).drained
      · exact h.drained u x hold
      · exact perform_drained h.knows hp hx hold
    · rw [Function.update_of_ne hu] at hx
      exact h.drained u x hx
  · cases o with
    | backendSend x frame deadlineNs => exact h.traced.send h.recorded ha r
    | _ => exact h.traced.snoc fun _ _ _ _ _ heq => by cases heq
  · refine h.closed.snoc hdrained (fun u x frame deadlineNs sent heq => ?_) fun _ _ heq => by cases heq
    cases heq
    exact ha.1

/-- **The invariant of a run.** -/
theorem safe_run {I : Instances X} {m m' : Calls X T} {es : List (TransportLabel X T)}
    (hinit : (transportSystem T I).init m) (hrun : (transportSystem T I).Run m es m') :
    Safe es m' := by
  have hobeys : Obeys (shots X) (fun (_ : T) a v => shotEnd a v) (fun _ => View.fresh) m.thread := by
    intro t p hp
    rw [hinit.2 t] at hp
    cases hp
  refine (Machine.run_conforms (G := fun _ _ _ => True) conforms_procBody
    (fun _ _ _ request _ _ _ _ => conforms_handler I request _) ?_ (Safe.init hinit) hobeys
    (hrun.mono fun _ _ _ hstep => ⟨hstep, trivial⟩)).1
  intro es m l m' hstep _ h hobeys hallowed
  refine ⟨fun _ _ _ _ => trivial, ?_⟩
  cases hstep with
  | start t request idle =>
    refine h.idle rfl (fun u => ?_) (fun _ _ => id) (fun _ _ _ _ _ heq => by cases heq)
      fun _ _ heq => by cases heq
    have hviews : known (es ++ [.start t request]) =
        Function.update (known es) t (known es t).begins := Discipline.views_snoc _ _ _
    rw [hviews]
    by_cases hu : u = t
    · subst hu
      exact .inr (Function.update_self _ _ _)
    · exact .inl ⟨Function.update_of_ne hu _ _, Ne.symm hu, Ne.symm hu⟩
  | act c next performed => exact h.act (hallowed _ _ _ rfl) performed
  | enter next =>
    exact h.idle rfl (fun u => .inl ⟨congrFun (Discipline.views_snoc _ _ _) u, trivial, trivial⟩)
      (fun _ _ => id) (fun _ _ _ _ _ heq => by cases heq) fun _ _ heq => by cases heq
  | @finish t answer next =>
    refine h.idle rfl (fun u => .inl ⟨congrFun (Discipline.views_snoc _ _ _) u, trivial, trivial⟩)
      (fun _ _ => id) (fun _ _ _ _ _ heq => by cases heq) fun u x heq => ?_
    cases heq
    exact hobeys t _ next x rfl
  | event e _ => exact e.elim

/-- **One-shot authority.**  In every interleaving of the calls on any
    transports, a frame that reaches a backend has a known class that moves no
    motor; where the class is dangerous, its send consumes a grant of the same
    transport for the very frame, and no other send consumes that grant; and
    after a close has returned no frame reaches the backend. -/
theorem one_shot (I : Instances X) {m m' : Calls X T} {es : List (TransportLabel X T)}
    (hinit : (transportSystem T I).init m) (hrun : (transportSystem T I).Run m es m') :
    (∀ (k : Nat) (t : T) (x : X) (frame : Frame) (deadlineNs : Nat) (sent : Status × Nat),
      es[k]? = some (.act t (.backendSend x frame deadlineNs) sent) →
        ∃ cls, classify frame = .ok cls ∧ cls ≠ .unknown ∧ cls ≠ .motion ∧
          (dangerousClass cls = true → ∃ i, Consumes es k i ∧ ∀ k', Consumes es k' i → k' = k)) ∧
      ∀ (n k : Nat) (t u : T) (x : X) (frame : Frame) (deadlineNs : Nat) (sent : Status × Nat),
        es[n]? = some (.finish t (.closed x)) →
          es[k]? = some (.act u (.backendSend x frame deadlineNs) sent) → k < n := by
  have h := safe_run hinit hrun
  refine ⟨fun k t x frame deadlineNs sent hk => ?_,
    fun n k t u x frame deadlineNs sent hn hk => (h.closed n t x hn).2 k u frame deadlineNs sent hk⟩
  obtain ⟨cls, hclass, hunknown, hmotion, hgrant⟩ := h.traced k t x frame deadlineNs sent hk
  refine ⟨cls, hclass, hunknown, hmotion, fun hd => ?_⟩
  obtain ⟨i, hi⟩ := hgrant hd
  exact ⟨i, hi, fun k' hi' => hi'.unique hi⟩

/-! ### An enable frame, issued and sent. -/

/-- One transport. -/
def leftArm : Instances Unit := ⟨fun _ => (1, 2), fun _ => 1000, fun _ _ _ => rfl⟩

/-- The enable frame of motor 1. -/
def enableFrame : Frame := fillFrame 1 ![0xff, 0xff, 0xff, 0xff, 0xff, 0xff, 0xff, 0xfc]

/-- The backend's clock stands at 10, and the next token is 7. -/
def answers : Op Unit → Choice
  | .backendNow _ => .reading .ok 10
  | .backendSend .. => .reading .ok 11
  | .secureRandom64 => .reading .ok 7
  | .permitsAuthorityIssuance _ => .flag true
  | .emplaceGrant .. => .flag true
  | .newAuthority => .flag true
  | _ => .quiet

/-- One thread issues an authority, sends the frame with it and closes. -/
def enableOnce : List (Machine.Move (transportSig Unit) Unit Choice (Request Unit) Empty) :=
  [.start () (.issueAuthority () enableFrame 100), .go () 13 answers,
    .start () (.send () enableFrame 50 (some ⟨(1, 2), 7⟩)), .go () 10 answers,
    .start () (.close ()), .go () 11 answers]

/-- The label hands the enable frame to the backend. -/
def sendsEnable : TransportLabel Unit Unit → Bool
  | .act _ (.backendSend _ frame 50) _ => decide (frame = enableFrame)
  | _ => false

/-- Transports at rest. -/
def atRest : Calls Unit Unit := ⟨.initial, fun _ => none⟩

/-- The rule for the enable frame. -/
theorem one_shot_enable :
    ∃ es m', (transportSystem Unit leftArm).Run atRest es m' ∧
      (∃ sent, es[22]? = some (.act () (.backendSend () enableFrame 50) sent)) ∧
      ∃ i, Consumes es 22 i ∧ ∀ k', Consumes es k' i → k' = 22 := by
  have hrun : ((transportMachine Unit leftArm).schedule atRest enableOnce).any (fun q =>
      (q.1[22]?).any sendsEnable) = true := by decide +kernel
  obtain ⟨⟨es, m'⟩, hschedule, hfacts⟩ := (Option.any_eq_true _ _).mp hrun
  obtain ⟨l, hl, hsends⟩ := (Option.any_eq_true _ _).mp hfacts
  have hsent : ∃ sent, es[22]? = some (.act () (.backendSend () enableFrame 50) sent) := by
    unfold sendsEnable at hsends
    split at hsends
    · rename_i t x frame sent
      exact ⟨sent, by rw [hl, of_decide_eq_true hsends]⟩
    · cases hsends
  have hpath := Machine.schedule_run hschedule
  refine ⟨es, m', hpath, hsent, ?_⟩
  obtain ⟨sent, hsent⟩ := hsent
  obtain ⟨cls, hclass, -, -, hgrant⟩ :=
    (one_shot leftArm ⟨rfl, fun _ => rfl⟩ hpath).1 22 () () enableFrame 50 sent hsent
  have henable : classify enableFrame = .ok .enable := by decide +kernel
  rw [henable] at hclass
  cases hclass
  exact hgrant rfl

end OpenArm.Transport
