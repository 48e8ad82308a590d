import Mathlib.Logic.Function.Basic
import DetectorDashboard.Proofs.ConfigurationLayers

/-! Where the dashboard listens, when the environment gives an address for it. The host of the address
is taken as soon as there is a colon in it, and the port only if it can be read; so an address is taken
as a whole or not at all, unless what follows its last colon is no port. -/

namespace DetectorDashboard.Configuration

theorem exists_eq_append_colon {s : String} (h : ':' ∈ s.toList) :
    ∃ host text, s = host ++ ":" ++ text ∧ ':' ∉ text.toList := by
  obtain ⟨text, host, hsplit, htext⟩ := List.eq_append_cons_of_mem (List.mem_reverse.mpr h)
  refine ⟨String.ofList host.reverse, String.ofList text.reverse, ?_, by simpa using htext⟩
  apply String.toList_injective
  have hreverse := congrArg List.reverse hsplit
  simpa using hreverse

/-! ### The address over what is there without it -/

/-- An address changes nothing but where the dashboard listens. -/
theorem exists_withAddress_eq (address : String) :
    ∃ listen : ServerOptions → ServerOptions,
      ∀ c : Configuration, c.withAddress address = { c with server := listen c.server } := by
  by_cases hcolon : ':' ∈ address.toList
  · obtain ⟨host, text, rfl, htext⟩ := exists_eq_append_colon hcolon
    refine ⟨fun o => ⟨host, (readPort? text).getD o.port⟩, fun c => ?_⟩
    rw [c.withAddress_append host htext, change_withPort]
    rfl
  · exact ⟨id, fun c => c.withAddress_of_notMem hcolon⟩

/-- The address comes over what the other variables and the file say. -/
theorem override_bind (c : Configuration) (env : Environment) (address : String) :
    c.override (Function.update env "EIGERDASH_BIND" (some address)) =
      (c.override (Function.update env "EIGERDASH_BIND" none)).withAddress address := by
  have hself (address? : Option String) :
      (Function.update env "EIGERDASH_BIND" address? : Environment) "EIGERDASH_BIND" = address? :=
    Function.update_self ..
  have hother (address? : Option String) {name : String} (h : name ≠ "EIGERDASH_BIND") :
      (Function.update env "EIGERDASH_BIND" address? : Environment) name = env name :=
    Function.update_of_ne h ..
  obtain ⟨listen, hlisten⟩ := exists_withAddress_eq address
  simp only [override, hself, hother _ (by decide : "EIGERDASH_HOST" ≠ "EIGERDASH_BIND"),
    hother _ (by decide : "EIGERDASH_PORT" ≠ "EIGERDASH_BIND"),
    hother _ (by decide : "EIGERDASH_API_URL" ≠ "EIGERDASH_BIND"),
    hother _ (by decide : "EIGERDASH_LOG" ≠ "EIGERDASH_BIND"),
    hother _ (by decide : "RUST_LOG" ≠ "EIGERDASH_BIND"), change_withBaseUrl, change_withFilter]
  -- what is applied after the address does not look at the server
  simp only [change, Option.map_some, Option.map_none, Option.getD_some, Option.getD_none, hlisten]
  rfl

/-! ### Addresses taken as a whole -/

/-- The text of a host and a port. -/
def Denotes (address : String) (o : ServerOptions) : Prop :=
  ∃ text, address = o.host ++ ":" ++ text ∧ readPort? text = some o.port

/-- Both the host and the port come from the address, or neither does, since it denotes none. -/
def TakenWhole (address : String) (unset merged : ServerOptions) : Prop :=
  Denotes address merged ∨ (∀ o, ¬ Denotes address o) ∧ merged = unset

theorem not_denotes_of_notMem {address : String} (h : ':' ∉ address.toList) (o : ServerOptions) :
    ¬ Denotes address o := by
  rintro ⟨text, rfl, -⟩
  simp at h

theorem not_denotes_of_readPort? {host text : String} (htext : ':' ∉ text.toList)
    (hport : readPort? text = none) (o : ServerOptions) : ¬ Denotes (host ++ ":" ++ text) o := by
  rintro ⟨text', heq, hport'⟩
  have hsplit := congrArg splitAddress? heq
  rw [splitAddress?_append host htext,
    splitAddress?_append o.host (Text.colon_notMem_of_readUnsigned? hport')] at hsplit
  obtain ⟨-, rfl⟩ := Prod.mk.inj (Option.some.inj hsplit)
  rw [hport] at hport'
  cases hport'

/-- Of where to listen the address says both the host and the port if it denotes them, and nothing if
there is no colon in it; and if what follows its last colon is no port, it says the host alone. So
it is taken as a whole or not at all, except in this last case, where the host must not differ. -/
theorem address_in_force {file : ConfigurationFile} {base : Configuration}
    (hbase : Found file base) (env : Environment) (address : String) :
    let unset := base.override (Function.update env "EIGERDASH_BIND" none)
    let merged := base.override (Function.update env "EIGERDASH_BIND" (some address))
    (load file (Function.update env "EIGERDASH_BIND" (some address)) =
      match merged.fault? with
      | some problem => .error (.invalid problem)
      | none => .ok merged) ∧
    (∀ o, Denotes address o → merged = { unset with server := o }) ∧
    (':' ∉ address.toList → merged = unset) ∧
    (∀ host text, address = host ++ ":" ++ text → ':' ∉ text.toList → readPort? text = none →
      merged = unset.withHost host) ∧
    (TakenWhole address unset.server merged.server ↔
      ∀ host text, address = host ++ ":" ++ text → ':' ∉ text.toList → readPort? text = none →
        host = unset.server.host) := by
  intro unset merged
  have hmerged : merged = unset.withAddress address := override_bind base env address
  have hwhole : ∀ o, Denotes address o → merged = { unset with server := o } := by
    rintro o ⟨text, rfl, hport⟩
    rw [hmerged, unset.withAddress_append o.host (Text.colon_notMem_of_readUnsigned? hport), hport]
    rfl
  have hplain : ':' ∉ address.toList → merged = unset := fun hcolon =>
    hmerged.trans (unset.withAddress_of_notMem hcolon)
  have hhost : ∀ host text, address = host ++ ":" ++ text → ':' ∉ text.toList →
      readPort? text = none → merged = unset.withHost host := by
    rintro host text rfl htext hport
    rw [hmerged, unset.withAddress_append host htext, hport]
    rfl
  refine ⟨load_of_ok (ofFile_eq_ok_iff.2 hbase) _, hwhole, hplain, hhost, ?_, ?_⟩
  · rintro htaken host text rfl htext hport
    obtain hdenotes | ⟨-, hsame⟩ := htaken
    · exact absurd hdenotes (not_denotes_of_readPort? htext hport _)
    · rw [hhost host text rfl htext hport] at hsame
      exact congrArg ServerOptions.host hsame
  · intro hsame
    by_cases hcolon : ':' ∈ address.toList
    · obtain ⟨host, text, rfl, htext⟩ := exists_eq_append_colon hcolon
      cases hport : readPort? text with
      | some port =>
          have hdenotes : Denotes (host ++ ":" ++ text) ⟨host, port⟩ := ⟨text, rfl, hport⟩
          left
          rw [hwhole _ hdenotes]
          exact hdenotes
      | none =>
          right
          refine ⟨not_denotes_of_readPort? htext hport, ?_⟩
          rw [hhost host text rfl htext hport, hsame host text rfl htext hport]
          rfl
    · right
      exact ⟨not_denotes_of_notMem hcolon, congrArg _ (hplain hcolon)⟩

/-- Over a port from the file and a host from the environment: an address with a plus sign before its
port, one without a colon, and one with a name in the place of the port, whose host is the same. -/
theorem addresses_over_file_and_host :
    let file := ConfigurationFile.content (Text.Utf8.encode "[server]\nport = 9090\n".toList)
    let base : Configuration := { server := { port := 9090 } }
    let env : Environment := fun name => List.lookup name
      [("EIGERDASH_HOST", "localhost"), ("EIGERDASH_PORT", "70000")]
    let unset := base.override (Function.update env "EIGERDASH_BIND" none)
    let merged (address : String) :=
      base.override (Function.update env "EIGERDASH_BIND" (some address))
    Found file base ∧ unset.server = ⟨"localhost", 9090⟩ ∧
    Denotes "[::1]:+80" ⟨"[::1]", 80⟩ ∧
    merged "[::1]:+80" = { unset with server := ⟨"[::1]", 80⟩ } ∧
    ':' ∉ "10.0.0.1".toList ∧ merged "10.0.0.1" = unset ∧
    readPort? "http" = none ∧
    TakenWhole "localhost:http" unset.server (merged "localhost:http").server := by
  intro file base env unset merged
  have hfound : Found file base := ofFile_eq_ok_iff.1 (by decide +kernel)
  have hunset : unset.server = ⟨"localhost", 9090⟩ := by decide +kernel
  have hdenotes : Denotes "[::1]:+80" ⟨"[::1]", 80⟩ :=
    ⟨"+80", by decide, (by decide : readPort? "+80" = some 80)⟩
  have hcolon : ':' ∉ "10.0.0.1".toList := by decide
  have hport : readPort? "http" = none := by decide
  obtain ⟨-, hwhole, -⟩ := address_in_force hfound env "[::1]:+80"
  obtain ⟨-, -, hplain, -⟩ := address_in_force hfound env "10.0.0.1"
  obtain ⟨-, -, -, -, htaken⟩ := address_in_force hfound env "localhost:http"
  refine ⟨hfound, hunset, hdenotes, hwhole _ hdenotes, hcolon, hplain hcolon, hport, htaken.2 ?_⟩
  intro host text haddress htext _
  have hsplit := congrArg splitAddress? haddress
  rw [splitAddress?_append host htext] at hsplit
  have hhost : splitAddress? "localhost:http" = some ("localhost", "http") := by decide
  rw [hhost] at hsplit
  have hname : unset.server.host = "localhost" := congrArg ServerOptions.host hunset
  rw [hname]
  exact (congrArg Prod.fst (Option.some.inj hsplit)).symm

/-- The host of an address whose port is a name, with the port that is the default. -/
theorem host_taken_without_port :
    let address := "10.0.0.1:http"
    let env : Environment := fun name => List.lookup name [("EIGERDASH_BIND", address)]
    load .missing (fun _ => none) = .ok {} ∧
      load .missing env = .ok { server := ⟨"10.0.0.1", 3000⟩ } ∧
      ¬ TakenWhole address ({} : Configuration).server ⟨"10.0.0.1", 3000⟩ := by
  intro address env
  refine ⟨by decide +kernel, by decide +kernel, ?_⟩
  have htext : ':' ∉ "http".toList := by decide
  have haddress : address = "10.0.0.1" ++ ":" ++ "http" := by decide
  rintro (hdenotes | ⟨-, hsame⟩)
  · rw [haddress] at hdenotes
    exact not_denotes_of_readPort? htext (by decide) _ hdenotes
  · have hhost : "10.0.0.1" ≠ ({} : Configuration).server.host := by decide
    exact hhost (congrArg ServerOptions.host hsame)

end DetectorDashboard.Configuration
