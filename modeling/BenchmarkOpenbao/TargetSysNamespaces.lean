import BenchmarkOpenbao.ApiClient

set_option autoImplicit false

/-!
# `namespace`

`NamespaceTest` from `target_sys_namespaces.go`. Setup makes no call. Each Target creates a
namespace `<prefix>-<uuid>` whose body names `benchmark-<namespaceData>` as its source.
Cleanup lists `sys/namespaces` and deletes each listed namespace with the prefix, unless its
metadata names another source. The listing reaches Cleanup as Go's `map[string]interface{}`,
read through type assertions that panic on a value of another type.
-/

namespace BenchmarkOpenbao

def NamespaceMethod : String := "POST"

structure NamespaceTestConfig where
  namespacePrefix : String

/-- The attributes a `config` block sets, as gohcl decodes them; an absent one is `none`. -/
structure NamespaceConfigBody where
  namespace_prefix : Option String

structure NamespaceTest where
  pathPrefix : String
  header : Header
  namespacePrefix : String
  namespaceData : String

/-! ## Type assertions -/

/-- The dynamic type an `interface conversion` panic names; a missing map entry and a JSON
null are both `nil`. -/
def goTypeName : Option Json → String
  | none | some .null => "nil"
  | some (.bool _) => "bool"
  | some (.num _) => "json.Number"
  | some (.str _) => "string"
  | some (.arr _) => "[]interface \x7b\x7d"
  | some (.obj _) => "map[string]interface \x7b\x7d"

def conversionPanic (v : Option Json) (target : String) : Abort :=
  .panic ("interface conversion: interface \x7b\x7d is " ++ goTypeName v ++ ", not " ++ target)

def assertArray : Option Json → Except Abort (List Json)
  | some (.arr xs) => .ok xs
  | v => .error (conversionPanic v "[]interface \x7b\x7d")

def assertObject : Option Json → Except Abort (List (String × Json))
  | some (.obj kvs) => .ok kvs
  | v => .error (conversionPanic v "map[string]interface \x7b\x7d")

def assertString : Option Json → Except Abort String
  | some (.str s) => .ok s
  | v => .error (conversionPanic v "string")

namespace NamespaceTest

/-- `ParseConfig`: the default, overridden by what the block sets. -/
def parseConfig (body : Except String NamespaceConfigBody) : Except String NamespaceTestConfig :=
  match body with
  | .error diags => .error ("error decoding to struct: " ++ diags)
  | .ok b => .ok { namespacePrefix := b.namespace_prefix.getD "benchmark" }

variable (n : NamespaceTest) (cl : Client)

/-- `Target`; `uuid` is what `uuid.GenerateUUID` returns. The body is concatenated by hand. -/
def target (uuid : Except String String) : Except Abort Target := do
  let namespacePath := n.namespacePrefix ++ "-" ++ (← uuidOrPanic uuid)
  pure { method := NamespaceMethod, url := cl.address ++ n.pathPrefix ++ "/" ++ namespacePath
         body := "\x7b\"source\":\"benchmark-" ++ n.namespaceData ++ "\"\x7d", header := n.header }

def getTargetInfo : TargetInfo := { method := NamespaceMethod, pathPrefix := n.pathPrefix }

/-- The `source` test of the loop: whether a namespace's metadata names another source. -/
def foreignSource (info : List (String × Json)) : Except Abort Bool :=
  match info.lookup "source" with
  | some valueRaw => do
    let value ← assertString (some valueRaw)
    pure (value ≠ "benchmark-" ++ n.namespaceData)
  | none => pure false

/-- The loop over `resp.Data["keys"]`. -/
def cleanupLoop (data : List (String × Json)) : List Json → ClientM (Option String)
  | [] => pure none
  | pathRaw :: rest => do
    let path ← assertString (some pathRaw)
    if !stringsHasPrefix path n.namespacePrefix then cleanupLoop data rest
    else
      let keyInfo ← assertObject (data.lookup "key_info")
      let info ← assertObject (keyInfo.lookup path)
      if ← n.foreignSource info then cleanupLoop data rest
      else
        match ← cl.send (.delete ("sys/namespaces/" ++ path)) with
        | some err => pure (some ("error cleaning up " ++ path ++ ": " ++ err))
        | none => cleanupLoop data rest

/-- `Cleanup`. `Logical().List` returns the nil secret for an empty listing. -/
def cleanup : ClientM (Option String) := do
  match ← cl.list "sys/namespaces" with
  | .error err => pure (some ("error listing namespaces: " ++ err))
  | .ok none => ClientM.panic nilDereference
  | .ok (some resp) => do
    let keys ← assertArray (resp.data.lookup "keys")
    n.cleanupLoop cl resp.data keys

def setup (config : NamespaceTestConfig) (namespaceName : String) (top : TopLevelTargetConfig)
    (uuid : Except String String) : ClientM (Except String NamespaceTest) := do
  let namespaceData ← resourcePath namespaceName top uuid
  pure (.ok { pathPrefix := "/v1/sys/namespaces", header := cl.vaultHeaders
              namespacePrefix := config.namespacePrefix, namespaceData })

theorem setup_no_panic (config : NamespaceTestConfig) (namespaceName : String)
    (top : TopLevelTargetConfig) (uuid : Except String String) :
    NoPanic (setup cl config namespaceName top uuid) :=
  NoPanic.bind (NoPanic.lift (resourcePath_ne_panic namespaceName top uuid)) fun _ => NoPanic.pure _

theorem setup_calls (config : NamespaceTestConfig) (namespaceName : String)
    (top : TopLevelTargetConfig) (uuid : Except String String) (P : Call → Prop) :
    CallsAll P (setup cl config namespaceName top uuid) :=
  CallsAll.bind (CallsAll.lift _) fun _ => CallsAll.pure _

theorem setup_ok {config : NamespaceTestConfig} {namespaceName : String}
    {top : TopLevelTargetConfig} {uuid : Except String String} {t t' : Trace} {n' : NamespaceTest}
    (h : setup cl config namespaceName top uuid t = (.ok (.ok n'), t')) :
    ∃ d, resourcePath namespaceName top uuid = .ok d ∧ t' = t ∧
      n' = { pathPrefix := "/v1/sys/namespaces", header := cl.vaultHeaders
             namespacePrefix := config.namespacePrefix, namespaceData := d } := by
  simp only [setup, ClientM.bind_run, ClientM.lift_run] at h
  rcases hd : resourcePath namespaceName top uuid with e | d
  · simp [hd] at h
  · simp only [hd, ClientM.pure_run, Prod.mk.injEq, Except.ok.injEq] at h
    exact ⟨d, rfl, h.2.symm, h.1.symm⟩

/-! ## Target -/

theorem target_ok {uuid : Except String String} {t : Target} (h : n.target cl uuid = .ok t) :
    ∃ u, uuid = .ok u ∧ t =
      { method := NamespaceMethod
        url := cl.address ++ n.pathPrefix ++ "/" ++ (n.namespacePrefix ++ "-" ++ u)
        body := "\x7b\"source\":\"benchmark-" ++ n.namespaceData ++ "\"\x7d", header := n.header } := by
  rcases uuid with e | u
  · cases h
  · exact ⟨u, rfl, ((Except.ok.injEq _ _).mp h).symm⟩

theorem target_describes {uuid : Except String String} {t : Target} (h : n.target cl uuid = .ok t) :
    n.getTargetInfo.Describes cl.address t := by
  obtain ⟨u, -, rfl⟩ := n.target_ok cl h
  exact TargetInfo.describes_of rfl ("/" ++ (n.namespacePrefix ++ "-" ++ u))
    (by simp [getTargetInfo, String.append_assoc]) (.inr rfl)

/-- With `namespaceData` of plain characters, Target's hand-built body decodes to the `source`
Cleanup looks for. -/
theorem target_body_source (hd : n.namespaceData.data.all Json.isPlain = true)
    {uuid : Except String String} {tgt : Target} (h : n.target cl uuid = .ok tgt) :
    Json.decode tgt.body = some (.obj [("source", .str ("benchmark-" ++ n.namespaceData))]) := by
  obtain ⟨u, -, rfl⟩ := n.target_ok cl h
  have hs : ("benchmark-" ++ n.namespaceData).data.all Json.isPlain = true := by
    rw [String.data_append, List.all_append, hd, Bool.and_true]; rfl
  have hv : ∀ k, Json.parseValue (k + 3)
      ("\x7b\"source\":\"benchmark-" ++ n.namespaceData ++ "\"\x7d").data =
      some (.obj [("source", .str ("benchmark-" ++ n.namespaceData))], []) := fun k =>
    Json.parseValue_single (k := ['s', 'o', 'u', 'r', 'c', 'e']) (by decide)
      (fun k => Json.parseValue_plain hs ['}'] k) rfl k
  have hl : 3 ≤ ("\x7b\"source\":\"benchmark-" ++ n.namespaceData ++ "\"\x7d").length + 1 := by
    have : "\x7b\"source\":\"benchmark-".length = 21 := rfl
    simp only [String.length_append]
    omega
  exact Json.decode_of_parseValue hv rfl hl

/-! ## Cleanup -/

theorem cleanupLoop_calls {P : Call → Prop} (hd : ∀ p, P (.delete ("sys/namespaces/" ++ p)))
    (data : List (String × Json)) (keys : List Json) : CallsAll P (n.cleanupLoop cl data keys) := by
  induction keys with
  | nil => exact CallsAll.pure _
  | cons k keys ih =>
    rw [cleanupLoop]
    refine CallsAll.bind (CallsAll.lift _) fun path => ?_
    split
    · exact ih
    · refine CallsAll.bind (CallsAll.lift _) fun _ => CallsAll.bind (CallsAll.lift _) fun _ =>
        CallsAll.bind (CallsAll.lift _) fun foreign => ?_
      split
      · exact ih
      · exact CallsAll.bind (CallsAll.send cl (hd path)) fun r => by
          cases r <;> first | exact ih | exact CallsAll.pure _

theorem cleanup_calls {P : Call → Prop} (hl : P (.list "sys/namespaces"))
    (hd : ∀ p, P (.delete ("sys/namespaces/" ++ p))) : CallsAll P (n.cleanup cl) := by
  refine CallsAll.bind (CallsAll.list cl hl) fun r => ?_
  rcases r with _ | _ | resp
  · exact CallsAll.pure _
  · exact CallsAll.panic _
  · exact CallsAll.bind (CallsAll.lift _) fun keys => n.cleanupLoop_calls cl hd _ _

theorem cleanupLoop_stops_on_error (retry : Call → String → Bool) (data : List (String × Json))
    (keys : List Json) : StopsOnError retry id (n.cleanupLoop cl data keys) := by
  induction keys with
  | nil => exact StopsOnError.of_no_calls (CallsAll.pure _)
  | cons k keys ih =>
    rw [cleanupLoop]
    refine StopsOnError.lift_bind fun path => ?_
    split
    · exact ih
    · refine StopsOnError.lift_bind fun _ => StopsOnError.lift_bind fun _ =>
        StopsOnError.lift_bind fun foreign => ?_
      split
      · exact ih
      · exact StopsOnError.send_bind cl _ (fun _ => ⟨_, _, rfl, rfl⟩) ih

theorem cleanup_stops_on_error (retry : Call → String → Bool) :
    StopsOnError retry id (n.cleanup cl) :=
  StopsOnError.bind_error (StopsOnError.list cl _) (fun _ => ⟨_, _, rfl, rfl⟩) fun r => by
    rcases r with _ | resp
    · exact StopsOnError.of_no_calls (CallsAll.panic _)
    · exact StopsOnError.lift_bind fun _ => n.cleanupLoop_stops_on_error cl retry _ _

/-- A listing of the server's shape: `keys` the names, `key_info` an object of each name's
metadata. -/
def namespaceListing (keys : List String) (infos : List (String × List (String × Json))) :
    Secret :=
  ⟨[("keys", .arr (keys.map .str)), ("key_info", .obj (infos.map fun e => (e.1, .obj e.2)))]⟩

/-- Metadata that lets Cleanup delete a namespace: no `source`, or this instance's. -/
def sourceAllows (info : List (String × Json)) : Bool :=
  match info.lookup "source" with
  | some (.str s) => s = "benchmark-" ++ n.namespaceData
  | some _ => false
  | none => true

def deletable (infos : List (String × List (String × Json))) (k : String) : Bool :=
  stringsHasPrefix k n.namespacePrefix && (infos.lookup k).any n.sourceAllows

theorem lookup_map_obj (infos : List (String × List (String × Json))) (k : String) :
    (infos.map fun e => (e.1, Json.obj e.2)).lookup k = (infos.lookup k).map Json.obj := by
  induction infos with
  | nil => rfl
  | cons e infos ih =>
    obtain ⟨k', v⟩ := e
    by_cases h : k = k'
    · subst h; simp
    · have hb : (k == k') = false := by simpa using h
      simp [List.lookup_cons, hb, ih]

theorem foreignSource_eq {info : List (String × Json)}
    (hs : ∀ v, info.lookup "source" = some v → ∃ s, v = .str s) :
    n.foreignSource info = .ok (!n.sourceAllows info) := by
  unfold foreignSource sourceAllows
  rcases h : info.lookup "source" with _ | v
  · rfl
  · obtain ⟨s, rfl⟩ := hs _ h
    simp [assertString]

/-- Every listed name with the prefix has metadata, whose `source`, if any, is a string. -/
def WellFormed (keys : List String) (infos : List (String × List (String × Json))) : Prop :=
  ∀ k ∈ keys, stringsHasPrefix k n.namespacePrefix = true →
    ∃ info, infos.lookup k = some info ∧ ∀ v, info.lookup "source" = some v → ∃ s, v = .str s

theorem cleanupLoop_ok {cl} (hf : ∀ i, cl.fails i = none) {data : List (String × Json)}
    {infos : List (String × List (String × Json))}
    (hd : data.lookup "key_info" = some (.obj (infos.map fun e => (e.1, .obj e.2))))
    (keys : List String) (hwf : n.WellFormed keys infos) (t : Trace) :
    n.cleanupLoop cl data (keys.map .str) t =
      (.ok none, t ++ (keys.filter (n.deletable infos)).map fun k =>
        (.delete ("sys/namespaces/" ++ k), none)) := by
  induction keys generalizing t with
  | nil => simp [cleanupLoop, ClientM.pure_run]
  | cons k keys ih =>
    have ih' := ih (fun k' hk' => hwf k' (List.mem_cons_of_mem _ hk'))
    by_cases hp : stringsHasPrefix k n.namespacePrefix = true
    · obtain ⟨info, hi, hs⟩ := hwf k (List.mem_cons_self _ _) hp
      have hkeys : assertObject (data.lookup "key_info") = .ok (infos.map fun e => (e.1, .obj e.2)) := by
        rw [hd]; rfl
      have hinfo : assertObject ((infos.map fun e => (e.1, Json.obj e.2)).lookup k) = .ok info := by
        rw [lookup_map_obj, hi]; rfl
      have hdel : n.deletable infos k = n.sourceAllows info := by simp [deletable, hp, hi]
      by_cases ha : n.sourceAllows info = true
      · simp [cleanupLoop, ClientM.bind_run, ClientM.lift_run, assertString, hp, hkeys, hinfo,
          n.foreignSource_eq hs, ha, send_run, hf, ih', hdel]
      · simp [cleanupLoop, ClientM.bind_run, ClientM.lift_run, assertString, hp, hkeys, hinfo,
          n.foreignSource_eq hs, ha, ih', hdel]
    · simp [cleanupLoop, ClientM.bind_run, ClientM.lift_run, assertString, hp, ih', deletable]

/-- Cleanup, every call succeeding, on a listing of the server's shape deletes exactly the
listed namespaces with the prefix whose metadata has no `source` or this instance's, in
listing order. -/
theorem cleanup_deletes_own_or_unsourced {cl} (hf : ∀ i, cl.fails i = none)
    {keys : List String} {infos : List (String × List (String × Json))}
    (hl : cl.listing "sys/namespaces" = some (namespaceListing keys infos))
    (hwf : n.WellFormed keys infos) (t : Trace) :
    n.cleanup cl t = (.ok none, t ++ (.list "sys/namespaces", none) ::
      (keys.filter (n.deletable infos)).map fun k => (.delete ("sys/namespaces/" ++ k), none)) := by
  have hloop := n.cleanupLoop_ok hf
    (show (namespaceListing keys infos).data.lookup "key_info" = _ from rfl) keys hwf
  have hkeys : assertArray ((namespaceListing keys infos).data.lookup "keys") =
      .ok (keys.map .str) := rfl
  simp [cleanup, Client.list, ClientM.bind_run, send_run, hf, hl, ClientM.pure_run,
    ClientM.lift_run, hkeys, hloop]

/-- Cleanup deletes every namespace Target creates. After Setup, with `namespaceData` of plain
characters, each Target posts to the request path of `sys/namespaces/<name>`, with a body that
decodes to metadata naming the run's own source; on every listing of the server's shape that
holds that namespace with that metadata, a Cleanup whose calls all succeed returns no error and
deletes it. -/
theorem cleanup_deletes_target_namespace {cl : Client} (hf : ∀ i, cl.fails i = none)
    {config : NamespaceTestConfig} {namespaceName : String} {top : TopLevelTargetConfig}
    {uuid₀ : Except String String} {t₀ t₀' : Trace} {n : NamespaceTest}
    (hs : setup cl config namespaceName top uuid₀ t₀ = (.ok (.ok n), t₀'))
    (hd : n.namespaceData.data.all Json.isPlain = true) {uuid : Except String String} {tgt : Target}
    (ht : n.target cl uuid = .ok tgt) :
    ∃ name info, tgt.url = cl.address ++ (Call.delete ("sys/namespaces/" ++ name)).requestPath ∧
      Json.decode tgt.body = some (.obj info) ∧
      ∀ (keys : List String) (infos : List (String × List (String × Json))),
        cl.listing "sys/namespaces" = some (namespaceListing keys infos) → n.WellFormed keys infos →
        name ∈ keys → infos.lookup name = some info → ∀ t,
          ∃ u, n.cleanup cl t = (.ok none, t ++ u) ∧ (.delete ("sys/namespaces/" ++ name), none) ∈ u := by
  have hb := n.target_body_source cl hd ht
  obtain ⟨d, -, -, hn⟩ := setup_ok cl hs
  have hpre : n.pathPrefix = "/v1/sys/namespaces" := by rw [hn]
  obtain ⟨u, -, rfl⟩ := n.target_ok cl ht
  refine ⟨n.namespacePrefix ++ "-" ++ u, _, by rw [hpre]; simp only [String.append_assoc]; rfl, hb,
    fun keys infos hl hwf hk hi t => ?_⟩
  have hdel : n.deletable infos (n.namespacePrefix ++ "-" ++ u) = true := by
    simp only [deletable, hi]
    simp [sourceAllows, String.append_assoc]
  have hloop := n.cleanupLoop_ok hf
    (show (namespaceListing keys infos).data.lookup "key_info" = _ from rfl) keys hwf
  have hkeys : assertArray ((namespaceListing keys infos).data.lookup "keys") =
      .ok (keys.map .str) := rfl
  refine ⟨(.list "sys/namespaces", none) :: (keys.filter (n.deletable infos)).map
    fun k => (.delete ("sys/namespaces/" ++ k), none), ?_,
    List.mem_cons_of_mem _ (List.mem_map.mpr ⟨_, List.mem_filter.mpr ⟨hk, hdel⟩, rfl⟩)⟩
  simp [cleanup, Client.list, ClientM.bind_run, send_run, hf, hl, ClientM.pure_run, ClientM.lift_run,
    hkeys, hloop]

theorem cleanup_deletes_target_namespace_run1 :
    let cl : Client :=
      { address := "http://127.0.0.1:8200", addressPath := "", token := "root", namespaceHeader := ""
        fails := fun _ => none
        listing := fun _ => some (namespaceListing ["benchmark-abc"]
          [("benchmark-abc", [("source", .str "benchmark-run1")])])
        mounts := [], auths := [] }
    let n : NamespaceTest := { pathPrefix := "/v1/sys/namespaces", header := cl.vaultHeaders
                               namespacePrefix := "benchmark", namespaceData := "run1" }
    (∀ i, cl.fails i = none) ∧
      setup cl { namespacePrefix := "benchmark" } "run1" ⟨false⟩ (.error "") [] = (.ok (.ok n), []) ∧
      n.namespaceData.data.all Json.isPlain = true ∧
      ∃ tgt, n.target cl (.ok "abc") = .ok tgt ∧
        ∃ name info, tgt.url = cl.address ++ (Call.delete ("sys/namespaces/" ++ name)).requestPath ∧
          Json.decode tgt.body = some (.obj info) ∧
          ∀ (keys : List String) (infos : List (String × List (String × Json))),
            cl.listing "sys/namespaces" = some (namespaceListing keys infos) → n.WellFormed keys infos →
            name ∈ keys → infos.lookup name = some info → ∀ t,
              ∃ u, n.cleanup cl t = (.ok none, t ++ u) ∧
                (.delete ("sys/namespaces/" ++ name), none) ∈ u := by
  intro cl n
  have hs : setup cl { namespacePrefix := "benchmark" } "run1" ⟨false⟩ (.error "") [] =
      (.ok (.ok n), []) := rfl
  have hd : n.namespaceData.data.all Json.isPlain = true := by decide
  have ht : n.target cl (.ok "abc") = _ := rfl
  exact ⟨fun _ => rfl, hs, hd, _, ht, cleanup_deletes_target_namespace (fun _ => rfl) hs hd ht⟩

theorem cleanup_deletes_own_or_unsourced_run1 :
    let n : NamespaceTest := { pathPrefix := "/v1/sys/namespaces", header := []
                               namespacePrefix := "benchmark", namespaceData := "run1" }
    let keys := ["benchmark-old", "benchmark-y"]
    let infos : List (String × List (String × Json)) :=
      [("benchmark-old", []), ("benchmark-y", [("source", .str "benchmark-run2")])]
    let cl : Client :=
      { address := "http://127.0.0.1:8200", addressPath := "", token := "root", namespaceHeader := ""
        fails := fun _ => none, listing := fun _ => some (namespaceListing keys infos)
        mounts := [], auths := [] }
    (∀ i, cl.fails i = none) ∧ cl.listing "sys/namespaces" = some (namespaceListing keys infos) ∧
      n.WellFormed keys infos ∧
      n.cleanup cl [] =
        (.ok none, [(.list "sys/namespaces", none), (.delete "sys/namespaces/benchmark-old", none)]) := by
  intro n keys infos cl
  have hwf : n.WellFormed keys infos := by
    intro k hk _
    simp only [keys, List.mem_cons, List.mem_singleton, List.not_mem_nil, or_false] at hk
    rcases hk with rfl | rfl
    · exact ⟨[], rfl, by simp⟩
    · exact ⟨[("source", .str "benchmark-run2")], rfl, fun v hv => ⟨_, (Option.some.inj hv).symm⟩⟩
  exact ⟨fun _ => rfl, rfl, hwf, (cleanup_deletes_own_or_unsourced n (fun _ => rfl) rfl hwf []).trans rfl⟩

/-- Prefix `benchmark`, RandomMounts off, and a server that lists `benchmark-old` with no
`source`, a namespace no Target made: Setup makes no call, and Cleanup deletes it. -/
theorem cleanup_deletes_foreign_namespace :
    let cl : Client :=
      { address := "http://127.0.0.1:8200", addressPath := "", token := "root", namespaceHeader := ""
        fails := fun _ => none
        listing := fun _ => some (namespaceListing ["benchmark-old"] [("benchmark-old", [])])
        mounts := [], auths := [] }
    ∃ n : NamespaceTest,
      setup cl { namespacePrefix := "benchmark" } "run1" ⟨false⟩ (.error "") [] = (.ok (.ok n), []) ∧
      (n.cleanup cl []).2 =
        [(.list "sys/namespaces", none), (.delete "sys/namespaces/benchmark-old", none)] := by
  intro cl
  exact ⟨{ pathPrefix := "/v1/sys/namespaces", header := cl.vaultHeaders
           namespacePrefix := "benchmark", namespaceData := "run1" }, rfl, rfl⟩

/-- An empty listing comes back as the nil secret, and `resp.Data` dereferences it. -/
theorem cleanup_nil_listing (address addressPath token namespaceHeader : String)
    (mounts auths : List (String × Option MountOutput)) (t : Trace) :
    let cl : Client := { address, addressPath, token, namespaceHeader, fails := fun _ => none
                         listing := fun _ => none, mounts, auths }
    n.cleanup cl t = (.error (.panic nilDereference), t ++ [(.list "sys/namespaces", none)]) :=
  rfl

end NamespaceTest

end BenchmarkOpenbao
