import DetectorDashboard.Proofs.LatestAnswer

/-! The order of delivery cannot be seen. Two runs in which the same requests get the same answers
show the same cells and report the same version, whatever else happens in them and in whatever order
the answers come: what is shown depends on the newest answers alone, and those are found by the
numbers of the requests. -/

namespace DetectorDashboard

namespace Resolution

/-- The answer to a status request that someone waited for, with the endpoint that was asked and the
number of the request among those to this endpoint. -/
def statusAnswer? (r : Resolution) : Option (Endpoint × Nat × Reply) :=
  r.purpose.request?.map fun request => (request.1, request.2, r.reply)

theorem statusAnswer?_eq {r : Resolution} {e : Endpoint} {seq : Nat}
    (h : r.purpose.request? = some (e, seq)) : r.statusAnswer? = some (e, seq, r.reply) := by
  rw [statusAnswer?, h, Option.map_some]

theorem of_statusAnswer? {r : Resolution} {e : Endpoint} {seq : Nat} {reply : Reply}
    (h : r.statusAnswer? = some (e, seq, reply)) :
    r.purpose.request? = some (e, seq) ∧ r.reply = reply := by
  obtain ⟨request, hrequest, heq⟩ := Option.map_eq_some_iff.mp h
  obtain ⟨rfl, rfl, rfl⟩ : request.1 = e ∧ request.2 = seq ∧ r.reply = reply := by
    simpa using heq
  exact ⟨hrequest, rfl⟩

theorem response?_eq {r s : Resolution} {e : Endpoint} {seq : Nat} {reply : Reply}
    (hr : r.statusAnswer? = some (e, seq, reply)) (hs : s.statusAnswer? = some (e, seq, reply)) :
    r.response? = s.response? := by
  obtain ⟨hr, hreply⟩ := of_statusAnswer? hr
  obtain ⟨hs, hreply'⟩ := of_statusAnswer? hs
  simp only [response?, endpoint?, hr, hs, hreply, hreply']

end Resolution

/-- The answers to status requests, in the order in which they came. -/
def statusAnswers (resolved : List Resolution) : List (Endpoint × Nat × Reply) :=
  resolved.filterMap (·.statusAnswer?)

section

variable {calls calls' : Array Call} {gates gates' : Endpoint → SequenceGate}
  {resolved resolved' : List Resolution}

/-- Where the answers of one run are all found in another, the newest answer there belongs to the
same request as the newest one here, or to a later one. -/
theorem newest?_le_of_subset (h' : Numbered calls' gates' (resolved'.map (·.toPendingCall)))
    (hsub : statusAnswers resolved ⊆ statusAnswers resolved') {e : Endpoint} {m : Resolution}
    {n : Nat} (hm : newest? resolved e = some m) (hn : m.purpose.request? = some (e, n)) :
    ∃ c ∈ resolved', c.statusAnswer? = some (e, n, m.reply) ∧
      ∃ m' n', newest? resolved' e = some m' ∧ m'.purpose.request? = some (e, n') ∧ n ≤ n' := by
  obtain ⟨hmem, he, hresponse⟩ := mem_of_newest? hm
  have hanswer := Resolution.statusAnswer?_eq hn
  have hfound := hsub (List.mem_filterMap.mpr ⟨m, hmem, hanswer⟩)
  obtain ⟨c, hc, hcanswer⟩ := List.mem_filterMap.mp hfound
  have hcrequest := (Resolution.of_statusAnswer? hcanswer).1
  refine ⟨c, hc, hcanswer, exists_newest?_ge h' hc hcrequest ?_⟩
  rw [Resolution.response?_eq hcanswer hanswer]
  exact hresponse

/-- The latest responses do not depend on the order of the answers. -/
theorem latest?_eq_of_perm (h : Numbered calls gates (resolved.map (·.toPendingCall)))
    (h' : Numbered calls' gates' (resolved'.map (·.toPendingCall)))
    (hperm : (statusAnswers resolved).Perm (statusAnswers resolved')) :
    latest? resolved = latest? resolved' := by
  funext e
  unfold latest?
  cases hm : newest? resolved e with
  | none =>
      cases hm' : newest? resolved' e with
      | none => rfl
      | some m' =>
          obtain ⟨n', hn'⟩ := request?_of_newest? hm'
          obtain ⟨-, -, -, m, -, hm'', -⟩ := newest?_le_of_subset h hperm.symm.subset hm' hn'
          rw [hm] at hm''
          exact nomatch hm''
  | some m =>
      obtain ⟨n, hn⟩ := request?_of_newest? hm
      obtain ⟨c, hc, hcanswer, m', n', hm', hn', hle⟩ :=
        newest?_le_of_subset h' hperm.subset hm hn
      obtain ⟨-, -, -, m'', n'', hm'', hn'', hge⟩ :=
        newest?_le_of_subset h hperm.symm.subset hm' hn'
      obtain rfl : m = m'' := Option.some.inj (hm.symm.trans hm'')
      have hseq : n = n' := by
        have : n = n'' := (Prod.mk.inj (Option.some.inj (hn.symm.trans hn''))).2
        omega
      subst hseq
      -- the newest answer there has the same number, hence it is the same request
      have hcrequest := (Resolution.of_statusAnswer? hcanswer).1
      have hmem := (mem_of_newest? hm').1
      have hid := h'.id_eq_of_request?_eq (List.mem_map_of_mem hc) (List.mem_map_of_mem hmem)
        hcrequest hn'
      have hnodup := h'.nodup
      rw [List.map_map] at hnodup
      have hsame : c = m' := List.inj_on_of_nodup_map hnodup hc hmem hid
      rw [hm', Option.bind_some, Option.bind_some, ← hsame,
        Resolution.response?_eq (Resolution.statusAnswer?_eq hn) hcanswer]

end

namespace Application

/-- Last asked wins. The cells of the page are those that the latest response of each endpoint gives
on an empty page, rendered in any order, and the version is the latest one reported; so a run in
which the same requests get the same answers in another order ends with the same cells and the same
version. -/
theorem page_of_latest_answers (settings : Settings) (sizes : Sizes) (events : List Event) :
    let a := (ofSettings settings sizes).run events
    let resolved := along resolutions (ofSettings settings sizes) events
    (∀ order : List Endpoint, order.Perm Endpoint.all →
      a.dashboard.page.cells =
        (Page.empty.renderAll settings.tableRows (order.filterMap (latest? resolved))).cells) ∧
    a.dashboard.apiVersion =
      ((latest? resolved .apiVersion).bind (·.version?)).getD settings.apiVersion ∧
    ∀ (sizes' : Sizes) (events' : List Event),
      (statusAnswers (along resolutions (ofSettings settings sizes') events')).Perm
        (statusAnswers resolved) →
      let b := (ofSettings settings sizes').run events'
      b.dashboard.page.cells = a.dashboard.page.cells ∧
        b.dashboard.apiVersion = a.dashboard.apiVersion := by
  intro a resolved
  have ha := current_run settings sizes events
  refine ⟨fun order horder => ha.shows.cells_renderAll horder, ha.version_eq, ?_⟩
  intro sizes' events' hperm b
  have hb := current_run settings sizes' events'
  have hlatest := latest?_eq_of_perm (numbered_resolved settings sizes' events')
    (numbered_resolved settings sizes events) hperm
  have hshows := hb.shows
  rw [hlatest] at hshows
  refine ⟨hshows.cells_eq ha.shows, ?_⟩
  rw [hb.version_eq, hlatest, ← ha.version_eq]

/-- Two requests for the version, the second of which is answered first. -/
theorem version_of_overtaking_answer :
    let ask : Event := .request .apiVersion .request
    let first : Event := .deliver ⟨0, 0⟩ 0 (.ok (.object [("api", .string "1.6.0")]))
    let second : Event := .deliver ⟨0, 0⟩ 1 (.ok (.object [("api", .string "1.8.0")]))
    let a := (ofSettings {} {}).run [ask, ask, second, first]
    let b := (ofSettings {} {}).run [ask, ask, first, second]
    a.dashboard.page.cells = (Page.empty.renderAll 4 [.apiVersion "1.8.0"]).cells ∧
      a.dashboard.apiVersion = "1.8.0" ∧ b.dashboard.page.cells = a.dashboard.page.cells := by
  intro ask first second a b
  obtain ⟨hcells, hversion, hperm⟩ :=
    page_of_latest_answers {} {} [ask, ask, second, first]
  refine ⟨hcells Endpoint.all.reverse (List.reverse_perm _), hversion, ?_⟩
  exact (hperm {} [ask, ask, first, second] (List.Perm.swap _ _ _)).1

end Application

end DetectorDashboard
