import DetectorDashboard.ControlServer.Client
import DetectorDashboard.Proofs.CallLog
import DetectorDashboard.Proofs.FloatText

/-! What is sent to the control server for a command. The address is put together without the slashes
at the end of the base, and the payload is written so that it can be read back. The headers do not
depend on what the payload is, but the type of the content depends on whether there is one. -/

namespace DetectorDashboard

/-- The payload of a write is a single value. -/
theorem Command.isScalar_of_mem_requests {paths : ApiPaths} {command : Command} :
    ∀ r ∈ command.requests paths, ∀ payload ∈ r.body, payload.IsScalar := by
  cases command <;> simp [requests, secondsBody, countBody, Json.IsScalar]

namespace ControlServer.Client

open Json (scalar? read?)

def slashes (n : Nat) : String :=
  String.ofList (List.replicate n '/')

/-! ### The base of an address -/

theorem ofBaseUrl_append_slashes (base : String) (n : Nat) :
    ofBaseUrl (base ++ slashes n) = ofBaseUrl base := by
  have hslash : ∀ c ∈ List.replicate n '/', decide (c = '/') = true := by
    intro c hc
    exact decide_eq_true (List.mem_replicate.mp hc).2
  rw [ofBaseUrl, slashes, String.toList_append, String.toList_ofList, List.reverse_append,
    List.reverse_replicate, List.dropWhile_append_of_pos hslash, ofBaseUrl]

/-- The base is the address without the slashes at its end. -/
theorem exists_slashes (url : String) :
    (ofBaseUrl url).baseUrl.toList.getLast? ≠ some '/' ∧
      ∃ n, url = (ofBaseUrl url).baseUrl ++ slashes n := by
  have hbase : (ofBaseUrl url).baseUrl.toList = (url.toList.reverse.dropWhile (· = '/')).reverse :=
    String.toList_ofList
  constructor
  · intro hlast
    have hnot := List.head?_dropWhile_not (· = '/') url.toList.reverse
    rw [hbase, List.getLast?_reverse] at hlast
    simp [hlast] at hnot
  · obtain ⟨n, hn⟩ := exists_eq_append_replicate (fun _ => of_decide_eq_true) url.toList
    refine ⟨n, String.toList_injective ?_⟩
    rw [String.toList_append, hbase, slashes, String.toList_ofList]
    exact hn

/-! ### Requests -/

theorem request_of_body {call : Call} {payload : Json} (h : call.body = some payload)
    (c : Client) : (c.request call).contentType = some "application/json" ∧
      (c.request call).body = payload.text := by
  simp [request, h]

theorem request_of_no_body {call : Call} (h : call.body = none) (c : Client) :
    (c.request call).contentType = none ∧ (c.request call).body = "" := by
  simp [request, h]

/-- The request for a write. Its address is the base without the slashes at its end, however many
there were, and then the path; it asks for JSON; and a payload is sent as its JSON text, from which
it can be read back, and is announced as JSON. Without a payload nothing is sent and nothing is
announced. -/
theorem request_of_write {paths : ApiPaths} {command : Command} {call : Call}
    (h : call ∈ command.calls paths) (url : String) :
    let sent := (ofBaseUrl url).request call
    sent.method = .put ∧
    (∃ base n, url = base ++ slashes n ∧ base.toList.getLast? ≠ some '/' ∧
      sent.url = base ++ call.path) ∧
    (∀ base n m, url = base ++ slashes n →
      (ofBaseUrl (base ++ slashes m)).request call = sent) ∧
    sent.accept = "application/json" ∧
    (∀ payload, call.body = some payload →
      sent.contentType = some "application/json" ∧ sent.body = payload.text ∧
      scalar? sent.body = some payload ∧
      ((∀ x, payload ≠ .number (.float x)) → read? sent.body = some payload)) ∧
    (call.body = none → sent.contentType = none ∧ sent.body = "") := by
  intro sent
  obtain ⟨r, hr, rfl⟩ := List.mem_map.mp h
  obtain ⟨hend, n, hurl⟩ := exists_slashes url
  refine ⟨rfl, ⟨_, n, hurl, hend, rfl⟩, ?_, rfl, fun payload hpayload => ?_,
    fun hnone => request_of_no_body hnone _⟩
  · rintro base n m rfl
    rw [ofBaseUrl_append_slashes, ← ofBaseUrl_append_slashes base n]
  · obtain ⟨htype, hbody⟩ := request_of_body hpayload (ofBaseUrl url)
    have hscalar : payload.IsScalar := Command.isScalar_of_mem_requests r hr payload hpayload
    obtain ⟨honce, hquick⟩ := Json.read_text hscalar
    refine ⟨htype, hbody, ?_, fun hexact => ?_⟩
    · exact (congrArg scalar? hbody).trans honce
    · exact (congrArg read? hbody).trans (hquick hexact)

/-- A path with quotation marks and a time of three quanta, for a base with two slashes at its
end. -/
theorem requests_of_path_and_time :
    let paths : ApiPaths := { version := "0.1", detectorApi := "1.6.0" }
    let seconds : Binary64.Magnitude := ⟨3, ⟨by decide +kernel, by decide +kernel⟩⟩
    let named : Call :=
      ⟨.put, paths.processorConfig "hdf/file/path", some (.string "/data/\"run\"")⟩
    let timed : Call :=
      ⟨.put, paths.detector "config/count_time", some (Command.secondsBody seconds)⟩
    let sent (call : Call) := (ofBaseUrl "http://127.0.0.1:8888//").request call
    named ∈ (Command.setWriter 1000 "/data/\"run\"" "a").calls paths ∧
      timed ∈ (Command.setExposure seconds).calls paths ∧
      (sent named).url = "http://127.0.0.1:8888/api/0.1/fp/config/hdf/file/path" ∧
      (sent named).contentType = some "application/json" ∧
      (sent named).body = "\"/data/\\\"run\\\"\"" ∧
      read? (sent named).body = some (.string "/data/\"run\"") ∧
      (sent timed).body = "1.5e-323" ∧
      scalar? (sent timed).body = some (Command.secondsBody seconds) := by
  intro paths seconds named timed sent
  have hnamed : named ∈ (Command.setWriter 1000 "/data/\"run\"" "a").calls paths :=
    List.mem_cons_of_mem _ List.mem_cons_self
  have htimed : timed ∈ (Command.setExposure seconds).calls paths :=
    List.mem_cons_self
  have hexact : ∀ x, Json.string "/data/\"run\"" ≠ .number (.float x) := by simp
  obtain ⟨-, -, -, -, hnamed', -⟩ := request_of_write hnamed "http://127.0.0.1:8888//"
  obtain ⟨-, -, -, -, htimed', -⟩ := request_of_write htimed "http://127.0.0.1:8888//"
  obtain ⟨htype, hbody, -, hquick⟩ := hnamed' _ rfl
  obtain ⟨-, hbody', honce, -⟩ := htimed' _ rfl
  exact ⟨hnamed, htimed, by decide, htype, hbody.trans (by decide +kernel), hquick hexact,
    hbody'.trans (by decide +kernel), honce⟩

/-- A write without a payload does not announce JSON. -/
theorem reset_sent_without_content_type :
    let paths : ApiPaths := { version := "0.1", detectorApi := "1.6.0" }
    let call : Call := ⟨.put, paths.processorCommand "reset_statistics", none⟩
    call ∈ Command.startWriting.calls paths ∧
      ((ofBaseUrl "http://127.0.0.1:8888").request call).contentType ≠ some "application/json" :=
  ⟨List.mem_cons_self, nofun⟩

end ControlServer.Client

end DetectorDashboard
