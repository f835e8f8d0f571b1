import BenchmarkOpenbao.ApiClient

set_option autoImplicit false

/-!
# `mount`

`MountTest` from `target_sys_mount.go`. Setup makes no call: it fixes the mount table
(`sys/mounts` or `sys/auth`) and the path prefix. Each Target mounts the plugin at a fresh
`<prefix>/<plugin>-<uuid>`. Cleanup lists the table and removes every listed mount of the
plugin's type whose path starts with the prefix.
-/

namespace BenchmarkOpenbao

def MountMethod : String := "POST"

structure MountTestConfig where
  mountType : String
  plugin : String

/-- The attributes a `config` block sets, as gohcl decodes them; an absent one is `none`. -/
structure MountConfigBody where
  mount_type : Option String
  plugin : Option String

structure MountTest where
  pathPrefix : String
  header : Header
  mountType : String
  mountPrefix : String
  plugin : String

namespace MountTest

/-- `ParseConfig`: the defaults, overridden by what the block sets. -/
def parseConfig (body : Except String MountConfigBody) : Except String MountTestConfig :=
  match body with
  | .error diags => .error ("error decoding to struct: " ++ diags)
  | .ok b => .ok { mountType := b.mount_type.getD "secret", plugin := b.plugin.getD "kv-v2" }

variable (m : MountTest) (cl : Client)

/-- `Target`; `uuid` is what `uuid.GenerateUUID` returns. The body is concatenated by hand. -/
def target (uuid : Except String String) : Except Abort Target := do
  let mountPath := m.plugin ++ "-" ++ (← uuidOrPanic uuid)
  pure { method := MountMethod, url := cl.address ++ m.pathPrefix ++ "/" ++ mountPath
         body := "\x7b\"type\":\"" ++ m.plugin ++ "\"\x7d", header := m.header }

def getTargetInfo : TargetInfo := { method := MountMethod, pathPrefix := m.pathPrefix }

/-- The listed mounts Cleanup removes: the plugin's type, the path starting with the prefix. -/
def removable : String × Option MountOutput → Bool
  | (path, some info) => info.type = m.plugin && stringsHasPrefix path m.mountPrefix
  | (_, none) => false

/-- The loop over a listed table: skip what is not removable, remove the rest with `remove`,
stop at the first error. `info.Type` on a null entry panics. -/
def removeMatching (remove : String → Call) :
    List (String × Option MountOutput) → ClientM (Option String)
  | [] => pure none
  | (_, none) :: _ => ClientM.panic nilDereference
  | (path, some info) :: rest =>
    if info.type ≠ m.plugin then removeMatching remove rest
    else if !stringsHasPrefix path m.mountPrefix then removeMatching remove rest
    else do
      match ← cl.send (remove path) with
      | some err => pure (some ("error cleaning up " ++ path ++ ": " ++ err))
      | none => removeMatching remove rest

/-- One branch of Cleanup's switch: list a table, then remove what matches. -/
def cleanupTable (listing : ClientM (Except String (List (String × Option MountOutput))))
    (listError : String) (remove : String → Call) : ClientM (Option String) := do
  match ← listing with
  | .error err => pure (some (listError ++ err))
  | .ok mounts => m.removeMatching cl remove mounts

def cleanup : ClientM (Option String) :=
  if m.mountType = "secret" then m.cleanupTable cl cl.listMounts "error listing mounts: " .unmount
  else if m.mountType = "auth" then
    m.cleanupTable cl cl.listAuth "error listing auth mounts: " .disableAuth
  else pure none

def setup (config : MountTestConfig) (mountName : String) (top : TopLevelTargetConfig)
    (uuid : Except String String) : ClientM (Except String MountTest) := do
  let mountPath ← resourcePath mountName top uuid
  let table : Except String String :=
    if config.mountType = "secret" then .ok "mounts"
    else if config.mountType = "auth" then .ok "auth"
    else .error ("unknown mount type: " ++ config.mountType)
  match table with
  | .error err => pure (.error err)
  | .ok table => pure (.ok { pathPrefix := "/v1/sys/" ++ table ++ "/" ++ mountPath
                             header := cl.vaultHeaders, mountPrefix := mountPath
                             mountType := config.mountType, plugin := config.plugin })

theorem setup_no_panic (config : MountTestConfig) (mountName : String)
    (top : TopLevelTargetConfig) (uuid : Except String String) :
    NoPanic (setup cl config mountName top uuid) :=
  NoPanic.bind (NoPanic.lift (resourcePath_ne_panic mountName top uuid)) fun _ => by
    dsimp only; split <;> exact NoPanic.pure _

theorem setup_calls (config : MountTestConfig) (mountName : String)
    (top : TopLevelTargetConfig) (uuid : Except String String) (P : Call → Prop) :
    CallsAll P (setup cl config mountName top uuid) :=
  CallsAll.bind (CallsAll.lift _) fun _ => by dsimp only; split <;> exact CallsAll.pure _

/-! ## Target -/

theorem target_ok {uuid : Except String String} {t : Target} (h : m.target cl uuid = .ok t) :
    ∃ u, uuid = .ok u ∧ t =
      { method := MountMethod, url := cl.address ++ m.pathPrefix ++ "/" ++ (m.plugin ++ "-" ++ u)
        body := "\x7b\"type\":\"" ++ m.plugin ++ "\"\x7d", header := m.header } := by
  rcases uuid with e | u
  · cases h
  · exact ⟨u, rfl, ((Except.ok.injEq _ _).mp h).symm⟩

theorem target_describes {uuid : Except String String} {t : Target} (h : m.target cl uuid = .ok t) :
    m.getTargetInfo.Describes cl.address t := by
  obtain ⟨u, -, rfl⟩ := m.target_ok cl h
  exact TargetInfo.describes_of rfl ("/" ++ (m.plugin ++ "-" ++ u))
    (by simp [getTargetInfo, String.append_assoc]) (.inr rfl)

/-- With a plugin name of plain characters, Target's body decodes to `{"type": plugin}`. -/
theorem target_body_decodes {uuid : Except String String} {t : Target}
    (h : m.target cl uuid = .ok t) (hp : m.plugin.data.all Json.isPlain = true) :
    Json.decode t.body = some (.obj [("type", .str m.plugin)]) := by
  obtain ⟨u, -, rfl⟩ := m.target_ok cl h
  have hv : ∀ n, Json.parseValue (n + 3) ("\x7b\"type\":\"" ++ m.plugin ++ "\"\x7d").data =
      some (.obj [("type", .str m.plugin)], []) := fun n =>
    Json.parseValue_single (k := ['t', 'y', 'p', 'e']) (by decide)
      (fun n => Json.parseValue_plain hp ['}'] n) rfl n
  have hl : 3 ≤ ("\x7b\"type\":\"" ++ m.plugin ++ "\"\x7d").length + 1 := by
    have : "\x7b\"type\":\"".length = 9 := rfl
    simp only [String.length_append]
    omega
  exact Json.decode_of_parseValue hv rfl hl

/-- A plugin name holding `"` ends the string early in Target's hand-built body: with plugin
`kv","type":"pki` the body is an object of two `type` members, not `{"type": plugin}`. -/
theorem target_body_two_types (pathPrefix mountType mountPrefix u : String) (header : Header)
    (cl : Client) :
    let m : MountTest :=
      { pathPrefix, header, mountType, mountPrefix, plugin := "kv\",\"type\":\"pki" }
    ∃ tgt, m.target cl (.ok u) = .ok tgt ∧
      Json.decode tgt.body = some (.obj [("type", .str "kv"), ("type", .str "pki")]) :=
  ⟨_, rfl, rfl⟩

/-! ## Cleanup -/

theorem removeMatching_no_panic (remove : String → Call) {mounts : List (String × Option MountOutput)}
    (hn : ∀ e ∈ mounts, e.2.isSome) : NoPanic (m.removeMatching cl remove mounts) := by
  induction mounts with
  | nil => exact NoPanic.pure _
  | cons e rest ih =>
    have ih := ih fun e he => hn e (List.mem_cons_of_mem _ he)
    obtain ⟨path, _ | info⟩ := e
    · simp at hn
    rw [removeMatching]
    split_ifs
    · exact ih
    · exact ih
    · exact NoPanic.bind (NoPanic.send cl _) fun r => by cases r <;> first | exact ih | exact NoPanic.pure _

theorem cleanup_no_panic (hn : ∀ e ∈ cl.mounts ++ cl.auths, e.2.isSome) : NoPanic (m.cleanup cl) := by
  have ht : ∀ listing listError remove mounts, (∀ e ∈ mounts, e.2.isSome) →
      (∀ t, (listing t).1 = .ok (.ok mounts) ∨ ∃ e, (listing t).1 = .ok (.error e)) →
      NoPanic (m.cleanupTable cl listing listError remove) := fun listing _ remove _ hm hl t msg => by
    rw [cleanupTable, ClientM.bind_run]
    rcases hx : listing t with ⟨r, t'⟩
    rcases hl t with h | ⟨e, h⟩ <;> rw [hx] at h <;> dsimp only at h <;> subst h
    · exact m.removeMatching_no_panic cl remove hm t' msg
    · exact fun he => by cases he
  rw [cleanup]
  split_ifs
  · exact ht _ _ _ _ (fun e he => hn e (List.mem_append_left _ he)) (listMounts_result cl)
  · exact ht _ _ _ _ (fun e he => hn e (List.mem_append_right _ he)) (listAuth_result cl)
  · exact NoPanic.pure _

theorem removeMatching_stops_on_error (retry : Call → String → Bool) (remove : String → Call)
    (mounts : List (String × Option MountOutput)) :
    StopsOnError retry id (m.removeMatching cl remove mounts) := by
  induction mounts with
  | nil => exact StopsOnError.of_no_calls (CallsAll.pure _)
  | cons e rest ih =>
    obtain ⟨path, _ | info⟩ := e
    · exact StopsOnError.of_no_calls (CallsAll.panic _)
    rw [removeMatching]
    split_ifs
    · exact ih
    · exact ih
    · exact StopsOnError.send_bind cl _ (fun _ => ⟨_, _, rfl, rfl⟩) ih

theorem cleanup_stops_on_error (retry : Call → String → Bool) :
    StopsOnError retry id (m.cleanup cl) := by
  have ht : ∀ listing listError remove, StopsOnError retry errorOf listing →
      StopsOnError retry id (m.cleanupTable cl listing listError remove) := fun _ _ remove h =>
    StopsOnError.bind_error h (fun _ => ⟨_, _, rfl, rfl⟩) fun _ =>
      m.removeMatching_stops_on_error cl retry remove _
  rw [cleanup]
  split_ifs
  · exact ht _ _ _ (StopsOnError.listMounts cl)
  · exact ht _ _ _ (StopsOnError.listAuth cl)
  · exact StopsOnError.of_no_calls (CallsAll.pure _)

theorem removeMatching_calls {P : Call → Prop} (remove : String → Call) (hr : ∀ p, P (remove p))
    (mounts : List (String × Option MountOutput)) : CallsAll P (m.removeMatching cl remove mounts) := by
  induction mounts with
  | nil => exact CallsAll.pure _
  | cons e rest ih =>
    obtain ⟨path, _ | info⟩ := e
    · exact CallsAll.panic _
    rw [removeMatching]
    split_ifs
    · exact ih
    · exact ih
    · exact CallsAll.bind (CallsAll.send cl (hr path)) fun r => by
        cases r <;> first | exact ih | exact CallsAll.pure _

theorem cleanup_calls {P : Call → Prop} (hm : P .listMounts) (ha : P .listAuth)
    (hu : ∀ p, P (.unmount p)) (hd : ∀ p, P (.disableAuth p)) : CallsAll P (m.cleanup cl) := by
  have ht : ∀ listing listError remove, CallsAll P listing → (∀ p, P (remove p)) →
      CallsAll P (m.cleanupTable cl listing listError remove) := fun _ _ remove h hr =>
    CallsAll.bind h fun r => by
      cases r
      · exact CallsAll.pure _
      · exact m.removeMatching_calls cl remove hr _
  rw [cleanup]
  split_ifs
  · exact ht _ _ _ (CallsAll.listMounts cl hm) hu
  · exact ht _ _ _ (CallsAll.listAuth cl ha) hd
  · exact CallsAll.pure _

section AllSucceed

variable {cl} (hf : ∀ n, cl.fails n = none)
include hf

theorem removeMatching_ok (remove : String → Call) {mounts : List (String × Option MountOutput)}
    (hn : ∀ e ∈ mounts, e.2.isSome) (t : Trace) :
    m.removeMatching cl remove mounts t =
      (.ok none, t ++ (mounts.filter m.removable).map fun e => (remove e.1, none)) := by
  induction mounts generalizing t with
  | nil => simp [removeMatching, ClientM.pure_run]
  | cons e mounts ih =>
    have ih := ih fun e he => hn e (List.mem_cons_of_mem _ he)
    obtain ⟨path, _ | info⟩ := e
    · simp at hn
    by_cases hr : m.removable (path, some info) = true
    · obtain ⟨ht, hp⟩ : info.type = m.plugin ∧ stringsHasPrefix path m.mountPrefix = true := by
        simpa [removable] using hr
      simp only [removeMatching, ht, hp, ne_eq, not_true_eq_false, if_false, Bool.not_true,
        Bool.false_eq_true, ClientM.bind_run, send_run, hf, ih, List.filter_cons, hr, if_true,
        List.map_cons, List.append_assoc, List.singleton_append]
    · have hskip : m.removeMatching cl remove ((path, some info) :: mounts) =
          m.removeMatching cl remove mounts := by
        simp only [removable, Bool.and_eq_true, decide_eq_true_eq, not_and] at hr
        by_cases ht : info.type = m.plugin
        · simp [removeMatching, ht, hr ht]
        · simp [removeMatching, ht]
      rw [hskip, ih, List.filter_cons, if_neg hr]

theorem removeMatching_panics (remove : String → Call) {mounts : List (String × Option MountOutput)}
    {p : String} (hn : (p, none) ∈ mounts) (t : Trace) :
    (m.removeMatching cl remove mounts t).1 = .error (.panic nilDereference) := by
  induction mounts generalizing t with
  | nil => cases hn
  | cons e mounts ih =>
    obtain ⟨path, _ | info⟩ := e
    · rfl
    have ih := ih (List.mem_of_ne_of_mem (by simp) hn)
    rw [removeMatching]
    split_ifs
    · exact ih t
    · exact ih t
    · simp only [ClientM.bind_run, send_run, hf]
      exact ih _

theorem cleanupTable_ok {listing : ClientM (Except String (List (String × Option MountOutput)))}
    {c : Call} {mounts : List (String × Option MountOutput)}
    (hl : ∀ t, listing t = (.ok (.ok mounts), t ++ [(c, none)])) (hn : ∀ e ∈ mounts, e.2.isSome)
    (listError : String) (remove : String → Call) (t : Trace) :
    m.cleanupTable cl listing listError remove t =
      (.ok none, t ++ (c, none) :: (mounts.filter m.removable).map fun e => (remove e.1, none)) := by
  simp [cleanupTable, ClientM.bind_run, hl, m.removeMatching_ok hf remove hn]

/-- Cleanup, every call succeeding, on tables with no null entry, lists the instance's table
and removes exactly the listed mounts of the plugin's type whose path starts with
`mountPrefix`, in listing order. -/
theorem cleanup_removes_prefixed (hn : ∀ e ∈ cl.mounts ++ cl.auths, e.2.isSome) (t : Trace) :
    m.cleanup cl t = (.ok none, t ++
      if m.mountType = "secret" then
        (.listMounts, none) :: (cl.mounts.filter m.removable).map fun e => (.unmount e.1, none)
      else if m.mountType = "auth" then
        (.listAuth, none) :: (cl.auths.filter m.removable).map fun e => (.disableAuth e.1, none)
      else []) := by
  by_cases hs : m.mountType = "secret"
  · simp only [cleanup, if_pos hs, m.cleanupTable_ok hf (cl.listMounts_of_succeeds hf)
      fun e he => hn e (List.mem_append_left _ he)]
  · by_cases ha : m.mountType = "auth"
    · simp only [cleanup, if_neg hs, if_pos ha, m.cleanupTable_ok hf (cl.listAuth_of_succeeds hf)
        fun e he => hn e (List.mem_append_right _ he)]
    · simp [cleanup, hs, ha, ClientM.pure_run]

end AllSucceed

/-- Mount name `pki`, plugin `pki`, RandomMounts off: Setup makes no call, every Target mounts
under `pki/`, and on a server that lists `pki-prod/`, a `pki` mount no Target made, Cleanup
unmounts it. -/
theorem cleanup_unmounts_foreign_mount :
    let cl : Client :=
      { address := "http://127.0.0.1:8200", addressPath := "", token := "root", namespaceHeader := ""
        fails := fun _ => none, listing := fun _ => none
        mounts := [("pki-prod/", some ⟨"pki"⟩)], auths := [] }
    ∃ m : MountTest,
      setup cl { mountType := "secret", plugin := "pki" } "pki" ⟨false⟩ (.error "") [] =
        (.ok (.ok m), []) ∧
      (∀ u t, m.target cl (.ok u) = .ok t → t.url = "http://127.0.0.1:8200/v1/sys/mounts/pki/pki-" ++ u) ∧
      (m.cleanup cl []).2 = [(.listMounts, none), (.unmount "pki-prod/", none)] := by
  intro cl
  exact ⟨{ pathPrefix := "/v1/sys/mounts/pki", header := cl.vaultHeaders, mountType := "secret"
           mountPrefix := "pki", plugin := "pki" }, rfl,
    fun u t h => by obtain ⟨_, ⟨⟩, rfl⟩ := target_ok _ cl h; rfl, rfl⟩

/-- A listing maps paths to `*MountOutput`, and `info.Type` dereferences each entry: on a server
that fails no call, a null entry in the instance's table makes Cleanup panic, wherever the
listing puts it. -/
theorem cleanup_null_entry_panics {cl : Client} (hf : ∀ n, cl.fails n = none) {p : String}
    (hn : m.mountType = "secret" ∧ (p, none) ∈ cl.mounts ∨ m.mountType = "auth" ∧ (p, none) ∈ cl.auths)
    (t : Trace) : (m.cleanup cl t).1 = .error (.panic nilDereference) := by
  rcases hn with ⟨hs, hp⟩ | ⟨ha, hp⟩
  · simp only [cleanup, if_pos hs, cleanupTable, ClientM.bind_run, cl.listMounts_of_succeeds hf]
    exact m.removeMatching_panics hf _ hp _
  · have hs : m.mountType ≠ "secret" := by rw [ha]; decide
    simp only [cleanup, if_neg hs, if_pos ha, cleanupTable, ClientM.bind_run,
      cl.listAuth_of_succeeds hf]
    exact m.removeMatching_panics hf _ hp _

theorem cleanup_null_entry_panics_kv :
    let cl : Client :=
      { address := "http://127.0.0.1:8200", addressPath := "", token := "root", namespaceHeader := ""
        fails := fun _ => none, listing := fun _ => none, mounts := [("kv/", none)], auths := [] }
    let m : MountTest :=
      { pathPrefix := "/v1/sys/mounts/pki", header := [], mountType := "secret"
        mountPrefix := "pki", plugin := "pki" }
    (∀ n, cl.fails n = none) ∧
      (m.mountType = "secret" ∧ ("kv/", none) ∈ cl.mounts ∨
        m.mountType = "auth" ∧ ("kv/", none) ∈ cl.auths) ∧
      (m.cleanup cl []).1 = .error (.panic nilDereference) :=
  ⟨fun _ => rfl, .inl ⟨rfl, List.mem_singleton_self _⟩,
    cleanup_null_entry_panics _ (fun _ => rfl) (.inl ⟨rfl, List.mem_singleton_self _⟩) []⟩

/-! ## Iteration order -/

theorem tableRun_perm (c : Call) (hc : c.creates = false) (hr : c.removes = false)
    (remove : String → Call) (hrm : ∀ p, (remove p).removes = true)
    {ms ms' : List (String × Option MountOutput)} (hp : ms.Perm ms') (cl : Client) (t : Trace) :
    let u : Trace := (c, none) :: (ms.filter m.removable).map fun e => (remove e.1, none)
    let u' : Trace := (c, none) :: (ms'.filter m.removable).map fun e => (remove e.1, none)
    u.Perm u' ∧ ∀ s, cl.runTrace s (t ++ u) = cl.runTrace s (t ++ u') := by
  intro u u'
  have hpm := (hp.filter m.removable).map fun e => ((remove e.1, none) : Call × Option String)
  refine ⟨hpm.cons _, fun s => ?_⟩
  rw [runTrace_append, runTrace_append, runTrace_cons_of_neutral cl hc hr,
    runTrace_cons_of_neutral cl hc hr]
  refine runTrace_perm_removals cl hpm ?_ _
  simp only [List.mem_map]
  rintro _ ⟨e, -, rfl⟩
  exact ⟨rfl, hrm _⟩

theorem tableResult_perm {cl cl' : Client} (hf : ∀ n, cl.fails n = none)
    (hf' : ∀ n, cl'.fails n = none) {listing : ClientM (Except String (List (String × Option MountOutput)))}
    {listing' : ClientM (Except String (List (String × Option MountOutput)))} {c : Call}
    {ms ms' : List (String × Option MountOutput)} (hp : ms.Perm ms')
    (hl : ∀ t, listing t = (.ok (.ok ms), t ++ [(c, none)]))
    (hl' : ∀ t, listing' t = (.ok (.ok ms'), t ++ [(c, none)])) (listError : String)
    (remove : String → Call) (t : Trace) :
    (m.cleanupTable cl listing listError remove t).1 = (m.cleanupTable cl' listing' listError remove t).1 := by
  by_cases hn : ∀ e ∈ ms, e.2.isSome
  · rw [m.cleanupTable_ok hf hl hn, m.cleanupTable_ok hf' hl' fun e he => hn e (hp.mem_iff.mpr he)]
  · obtain ⟨⟨p, _ | info⟩, he, hne⟩ : ∃ e ∈ ms, ¬ e.2.isSome := by simpa using hn
    · simp only [cleanupTable, ClientM.bind_run, hl, hl']
      rw [m.removeMatching_panics hf _ he, m.removeMatching_panics hf' _ (hp.mem_iff.mp he)]
    · simp at hne

/-- Go ranges over the listed table in no fixed order. Whichever order it takes, Cleanup, every
call succeeding, ends the same, in a panic at a null entry or with no error; and on tables with
no null entry it makes the same calls, each as often, and leaves the server the same. -/
theorem cleanup_order_independent {cl : Client} (hf : ∀ n, cl.fails n = none)
    {mounts auths : List (String × Option MountOutput)} (hm : cl.mounts.Perm mounts)
    (ha : cl.auths.Perm auths) (t : Trace) :
    let cl' : Client := { cl with mounts, auths }
    (m.cleanup cl t).1 = (m.cleanup cl' t).1 ∧
    ((∀ e ∈ cl.mounts ++ cl.auths, e.2.isSome) →
      ∃ u u', m.cleanup cl t = (.ok none, t ++ u) ∧ m.cleanup cl' t = (.ok none, t ++ u') ∧
        u.Perm u' ∧ ∀ s, cl.runTrace s (t ++ u) = cl'.runTrace s (t ++ u')) := by
  intro cl'
  have hf' : ∀ n, cl'.fails n = none := hf
  refine ⟨?_, fun hn => ?_⟩
  · rw [cleanup, cleanup]
    split_ifs
    · exact m.tableResult_perm hf hf' hm (cl.listMounts_of_succeeds hf)
        (cl'.listMounts_of_succeeds hf') _ _ t
    · exact m.tableResult_perm hf hf' ha (cl.listAuth_of_succeeds hf)
        (cl'.listAuth_of_succeeds hf') _ _ t
    · rfl
  refine ⟨_, _, m.cleanup_removes_prefixed hf hn t,
    m.cleanup_removes_prefixed hf' (fun e he => hn e ((hm.append ha).mem_iff.mpr he)) t, ?_⟩
  split_ifs
  · exact m.tableRun_perm .listMounts rfl rfl .unmount (fun _ => rfl) hm cl t
  · exact m.tableRun_perm .listAuth rfl rfl .disableAuth (fun _ => rfl) ha cl t
  · exact ⟨List.Perm.refl _, fun _ => rfl⟩

theorem cleanup_order_independent_swap :
    let cl : Client :=
      { address := "http://127.0.0.1:8200", addressPath := "", token := "root", namespaceHeader := ""
        fails := fun _ => none, listing := fun _ => none
        mounts := [("pki/pki-1/", some ⟨"pki"⟩), ("kv/", some ⟨"kv"⟩)], auths := [] }
    let m : MountTest :=
      { pathPrefix := "/v1/sys/mounts/pki", header := [], mountType := "secret"
        mountPrefix := "pki", plugin := "pki" }
    let cl' : Client := { cl with mounts := [("kv/", some ⟨"kv"⟩), ("pki/pki-1/", some ⟨"pki"⟩)], auths := [] }
    (∀ n, cl.fails n = none) ∧ cl.mounts.Perm cl'.mounts ∧ cl.auths.Perm cl'.auths ∧
      (m.cleanup cl []).1 = (m.cleanup cl' []).1 ∧
      ((∀ e ∈ cl.mounts ++ cl.auths, e.2.isSome) →
        ∃ u u', m.cleanup cl [] = (.ok none, [] ++ u) ∧ m.cleanup cl' [] = (.ok none, [] ++ u') ∧
          u.Perm u' ∧ ∀ s, cl.runTrace s ([] ++ u) = cl'.runTrace s ([] ++ u')) :=
  ⟨fun _ => rfl, List.Perm.swap _ _ _, List.Perm.refl _,
    cleanup_order_independent _ (fun _ => rfl) (List.Perm.swap _ _ _) (List.Perm.refl _) []⟩

end MountTest

end BenchmarkOpenbao
