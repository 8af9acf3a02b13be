/-
  The state root as the processes of a Store share it (`kernel/lock.py`).

  A `state_transaction` loads the state, works on it in memory and saves it, under
  the lock; a query (`dispatch_lot_size`, `status` and the others of `QueryMixin`)
  begins with a load without the lock. Here a load goes file by file (`scanLoad`), and
  a save write by write, so that the steps of all processes interleave; processes can
  be killed.

  `transactions_serialized`: what is on disk when nobody has the lock is what the
  transactions leave one after the other, each loading what the one before it left.
  `unlocked_load`: as long as no save drops an item, a load without the lock does not
  fail, finds every item that was there when it began, and finds of each item what was
  on disk at the start or what a save has written, never a mixture.
-/
import Aize.Reloading
import Aize.Lib.Locking

namespace Aize

open Except (require)

namespace SplitStateStorage

variable {E : Type} (H : Host) (J : Json E) (st : SplitStateStorage)

/-! ## Loading, file by file -/

/-- One file of `_load_item_collection`; a path that has been listed can be gone. -/
def scanItem (name identity : String) (collection : Dict String Value) (path : String) :
    Scan Err (Root E) (Dict String Value) :=
  .look fun R =>
    match ((R.data st.dataName).files (st.itemCollectionRoot name)).lookup path with
    | none => .error (.storeError s!"state file is missing: {path}")
    | some (.obj item) => do
      let key := H.text item identity
      require (key ≠ "") (.storeError s!"state item has no {identity}: {path}")
      return collection.insert key (.obj item)
    | some _ => .error (.storeError s!"state file must contain an object: {path}")

/-- `_load_item_collection`: the directory is listed, then the files are read. -/
def scanItemCollection (name identity : String) : Scan Err (Root E) (Dict String Value) := do
  let paths ← .look fun R =>
    .ok (((R.data st.dataName).files (st.itemCollectionRoot name)).keys.mergeSort (· ≤ ·))
  paths.foldlM (st.scanItem H name identity) ∅

/-- A value collection of a load; the file is looked for, then read. -/
def scanValue (name : String) (default : Value) : Scan Err (Root E) Value := do
  let path := valueCollectionPath name
  let present ← .look fun R => .ok (decide (path ∈ (R.data st.dataName).values))
  if present then
    .look fun R => match (R.data st.dataName).values.lookup path with
      | some value => .ok value
      | none => .error (.storeError s!"state file is missing: {path}")
  else pure default

/-- `load` -/
def scanLoad : Scan Err (Root E) (Snapshot E) := do
  let manifest ← .look fun R => match R.manifest with
    | some manifest => do
      require (manifest.storageVersion = 2)
        (.storeError s!"unsupported storage version: {manifest.storageVersion}")
      require (manifest.stateVersion = stateVersion)
        (.storeError s!"unsupported state version: {manifest.stateVersion}")
      return manifest
    | none => .error (.storeError "state file is missing: manifest.json")
  let items ← itemCollections.foldlM (fun items c => do
    let collection ← st.scanItemCollection H c.1 c.2
    return items.insert c.1 (some collection)) ∅
  let values ← valueCollections.foldlM (fun values v => do
    let value ← st.scanValue v.1 v.2
    return values.insert v.1 value) ∅
  return {
    version := manifest.stateVersion
    createdAt := manifest.createdAt
    messages := []
    sessionLogs := ∅
    items
    values }

/-- What a transaction makes of the state that it has loaded; the root is there for the logs
    that it reads. `none`: nothing is saved. -/
abbrev Work (E : Type) : Type := Root E → Snapshot E → Except Err (Option (Snapshot E))

/-- The body of a `state_transaction`. -/
def transaction (f : Work E) : Scan Err (Root E) (Durable Err (Root E) Unit) := do
  let state ← st.scanLoad H
  let saved ← .look fun R => f R state
  match saved with
  | some state => return st.save H J state
  | none => return pure ()

/-- The processes of a Store, over one state root. -/
def sharedRoot (ι : Type) [DecidableEq ι] :
    TransitionSystem (Shared ι Err (Root E) (Snapshot E) (Work E))
      (Move ι Err (Root E) (Snapshot E) (Work E)) :=
  locking ι (st.scanLoad H) (st.transaction H J)

/-- In this step a process that has loaded `state` begins to save `state'`. -/
def Saving {ι : Type} (e : TransitionSystem.Event (Shared ι Err (Root E) (Snapshot E) (Work E))
    (Move ι Err (Root E) (Snapshot E) (Work E))) (state state' : Snapshot E) : Prop :=
  ∃ f m, Shared.Begins e f m ∧ st.load H e.pre.disk = .ok state ∧
    f e.pre.disk state = .ok (some state')

/-! ## One transaction after the other -/

/-- A transaction that nobody disturbs. -/
def transact (f : Work E) : Durable Err (Root E) Unit := fun R =>
  match st.load H R >>= f R with
  | .ok (some state) => st.save H J state R
  | .ok none => ([], .ok ())
  | .error e => ([], .error e)

section
variable {H J st}

theorem alone_scanItemCollection (name identity : String) (R : Root E) :
    (st.scanItemCollection H name identity).alone R =
      st.loadItemCollection H name identity (R.data st.dataName) := by
  unfold scanItemCollection
  rw [Scan.alone_bind, loadItemCollection_eq]
  change (List.foldlM _ _ _ : Scan Err (Root E) _).alone R = _
  refine Scan.alone_foldlM (fun collection path hpath => ?_) ∅
  -- a path that has been listed is there
  have hmem := AList.mem_keys.2 ((List.mergeSort_perm _ _).mem_iff.1 hpath)
  obtain ⟨v, hv⟩ := Dict.mem_iff_lookup.1 hmem
  change (match ((R.data st.dataName).files (st.itemCollectionRoot name)).lookup path with
    | none => _
    | some (.obj item) => _
    | some _ => _) = _
  unfold loadItem
  rw [hv]
  cases v <;> rfl

theorem alone_scanValue (name : String) (default : Value) (R : Root E) :
    (st.scanValue name default).alone R = .ok (loadValue name default (R.data st.dataName)) := by
  unfold scanValue loadValue
  rw [Scan.alone_bind]
  change (ite _ _ _ : Scan Err (Root E) Value).alone R = _
  cases hv : (R.data st.dataName).values.lookup (valueCollectionPath name) with
  | none =>
    rw [if_neg (by simpa using AList.lookup_eq_none.1 hv)]
    rfl
  | some v =>
    rw [if_pos (by simpa using Dict.mem_iff_lookup.2 ⟨v, hv⟩)]
    change (match (R.data st.dataName).values.lookup (valueCollectionPath name) with
      | some value => Except.ok value
      | none => _) = _
    rw [hv]
    rfl

theorem alone_scanLoad (R : Root E) : (st.scanLoad H).alone R = st.load H R := by
  unfold scanLoad load loadData
  have hitems : ∀ items : Dict String (Option (Dict String Value)),
      (itemCollections.foldlM (fun items (c : String × String) => do
        let collection ← st.scanItemCollection H c.1 c.2
        return items.insert c.1 (some collection)) items : Scan Err (Root E) _).alone R =
      itemCollections.foldlM (fun items (c : String × String) => do
        let collection ← st.loadItemCollection H c.1 c.2 (R.data st.dataName)
        return items.insert c.1 (some collection)) items :=
    Scan.alone_foldlM fun items c _ => by
      rw [Scan.alone_bind, alone_scanItemCollection]
      rfl
  have hvalues : ∀ values : Dict String Value,
      (valueCollections.foldlM (fun values (v : String × Value) => do
        let value ← st.scanValue v.1 v.2
        return values.insert v.1 value) values : Scan Err (Root E) _).alone R =
      .ok (valueCollections.foldl (fun values (v : String × Value) =>
        values.insert v.1 (loadValue v.1 v.2 (R.data st.dataName))) values) := by
    intro values
    rw [Scan.alone_foldlM (g := fun values v =>
      .ok (values.insert v.1 (loadValue v.1 v.2 (R.data st.dataName))))]
    · exact List.foldlM_pure ..
    · intro values v _
      rw [Scan.alone_bind, alone_scanValue]
      rfl
  simp only [Scan.alone_bind, Scan.alone_look, hitems, hvalues, Scan.alone_pure]
  cases R.manifest with
  | none => rfl
  | some manifest =>
    dsimp only
    unfold require
    split_ifs <;> rfl

/-- Once the manifest has been read, the load goes on with the rest. -/
theorem scanLoad_read : ∃ next, st.scanLoad H (E := E) = .read next ∧
    ∀ R R' : Root E, R.manifest = R'.manifest → (next R).alone R' = st.load H R' := by
  refine ⟨_, rfl, fun R R' h => ?_⟩
  rw [← alone_scanLoad]
  unfold scanLoad
  rw [Scan.alone_bind, Scan.alone_look, ← h]
  exact Scan.alone_bind ..

theorem run_transaction (f : Work E) :
    Transaction.run (st.transaction H J f) = st.transact H J f := by
  funext R
  unfold transact Transaction.run transaction
  rw [Scan.alone_bind, alone_scanLoad]
  cases st.load H R with
  | error e => rfl
  | ok state =>
    rw [Except.ok_bind, Except.ok_bind, Scan.alone_bind, Scan.alone_look]
    cases f R state with
    | error e => rfl
    | ok saved => cases saved <;> rfl

end

/-- **The lock makes transactions serial**: the state root, when nobody has the lock, is what
    they leave one after the other, in the order in which they got it. One that is killed
    leaves some of its writes. -/
theorem transactions_serialized {ι : Type} [DecidableEq ι]
    {L₀ L : Shared ι Err (Root E) (Snapshot E) (Work E)}
    {tr : List (TransitionSystem.Event (Shared ι Err (Root E) (Snapshot E) (Work E))
      (Move ι Err (Root E) (Snapshot E) (Work E)))}
    (h : (store.sharedRoot H J ι).Run L₀ tr L) (h₀ : (store.sharedRoot H J ι).init L₀) :
    ∃ R evs, (serial (store.transact H J)).Run L₀.disk evs R ∧
      evs.map (·.act) = Shared.turns tr ∧
      Shared.locks tr = (Shared.turns tr).map (·.transaction) ++ L.locked.toList ∧
      (L.holder = none → L.disk = R) ∧
      ∀ f, L.locked = some f → (store.transact H J f).Leaves R L.disk := by
  obtain ⟨R, evs, hrun, hturns, hlocks, hfollows⟩ := Shared.serialized h h₀
  have hsame : (fun f => Transaction.run (store.transaction H J f)) = store.transact H J :=
    funext run_transaction
  rw [hsame] at hrun
  refine ⟨R, evs, hrun, hturns, hlocks, hfollows.free, fun f hf => ?_⟩
  unfold Shared.locked at hf
  obtain ⟨p, -, hp⟩ := Option.bind_eq_some_iff.1 hf
  rw [← run_transaction]
  exact hfollows.leaves hp

/-- A state with two users. -/
def twoUsers : Snapshot Sample :=
  { oneUser "ann" with
    items := (∅ : Dict String (Option (Dict String Value))).insert "users"
      (some (((∅ : Dict String Value).insert "ann" (.obj [("username", .str "ann")])).insert "bob"
        (.obj [("username", .str "bob")]))) }

theorem collection_twoUsers (name : String) : twoUsers.collection name =
    some (if name = "users" then ((∅ : Dict String Value).insert "ann"
      (.obj [("username", .str "ann")])).insert "bob" (.obj [("username", .str "bob")]) else ∅) := by
  unfold Snapshot.collection twoUsers
  rw [Dict.lookup_insert_of]
  split_ifs <;> rfl

theorem keyed_twoUsers : KeyedItems sampleHost twoUsers := by
  have hidentities : ∀ c ∈ itemCollections, c.1 = "users" → c.2 = "username" := by decide
  intro c hc collection hcoll key fields hk
  rw [collection_twoUsers] at hcoll
  obtain rfl := Option.some.inj hcoll
  split_ifs at hk with hname
  · have hidentity := hidentities c hc hname
    rw [Dict.lookup_insert_of, Dict.lookup_insert_of] at hk
    split_ifs at hk with hbob hann
    · obtain rfl := Value.obj.inj (Option.some.inj hk)
      subst hbob
      exact ⟨by decide, fun v _ => by rw [hidentity]; decide +kernel⟩
    · obtain rfl := Value.obj.inj (Option.some.inj hk)
      subst hann
      exact ⟨by decide, fun v _ => by rw [hidentity]; decide +kernel⟩
    · cases hk
  · cases hk

theorem saved_twoUsers (R : Root Sample) :
    (store.save sampleHost sampleJson twoUsers).result R = .ok () := by
  rw [save_ok_iff, saveData_ok_iff store_distinctDirs]
  refine ⟨rfl, fun e he => (by cases he), fun c _ => ?_⟩
  unfold collectionPasses
  rw [collection_twoUsers]
  split_ifs <;> exact decide_eq_true (by simp [Value.isObject])

/-- A state root with one user. -/
def annRoot : Root Sample := (store.save sampleHost sampleJson (oneUser "ann")).after .bare

theorem written_annRoot : Written sampleHost sampleJson store annRoot :=
  .save (oneUser "ann") .bare (Durable.leaves_after _ _)

theorem load_annRoot : ∃ loaded, store.load sampleHost annRoot = .ok loaded ∧
    ∀ c ∈ itemCollections, ∃ collection items, (oneUser "ann").collection c.1 = some collection ∧
      loaded.items.lookup c.1 = some (some items) ∧
      ∀ key, items.lookup key =
        (collection.lookup key).map (store.savedItem sampleHost c.1 c.2 key) :=
  loaded_items .bare (keyed_oneUser (by decide)) (saved_oneItem "users" "ann" _ _)

/-- Two processes over it, before they do anything. -/
def atRest : Shared Bool Err (Root Sample) (Snapshot Sample) (Work Sample) where
  disk := annRoot
  holder := none
  process _ := .idle

/-- A transaction that saves the two users. -/
def addBob : Work Sample := fun _ _ => .ok (some twoUsers)

theorem transaction_addBob : (store.transaction sampleHost sampleJson addBob).alone annRoot =
    .ok (store.save sampleHost sampleJson twoUsers) := by
  obtain ⟨loaded, hload, -⟩ := load_annRoot
  unfold transaction
  rw [Scan.alone_bind, alone_scanLoad, hload]
  rfl

/-- The second process begins to load; the first one gets the lock, and saves; the second one
    goes on. -/
theorem run_addBob : ∃ tr L, (store.sharedRoot sampleHost sampleJson Bool).Run atRest tr L ∧
    L.process false = .asking annRoot (.done (store.load sampleHost L.disk)) ∧ L.holder = none ∧
    L.disk = (store.save sampleHost sampleJson twoUsers).after annRoot ∧
    Shared.turns tr = [⟨addBob, false⟩] ∧
    (∃ e ∈ tr, ∃ state, Saving sampleHost store e state twoUsers) ∧
    ∀ e ∈ tr, ∀ f m, Shared.Begins e f m → f = addBob ∧ e.pre.disk = annRoot := by
  obtain ⟨next, hscan, hnext⟩ := @scanLoad_read Sample sampleHost store
  have hask := (TransitionSystem.Run.nil (T := store.sharedRoot sampleHost sampleJson Bool)
    atRest).snoc (.ask (p := false) rfl)
  have hreading : (atRest.set false (.asking annRoot (store.scanLoad sampleHost))).process false =
      .asking annRoot (.read next) := by
    rw [Shared.process_set, if_pos rfl, hscan]
  have hlook := hask.snoc (.look hreading)
  have hcall := hlook.snoc (.call (p := true) (t := addBob) rfl)
  have hlock := hcall.snoc (.lock (p := true) (t := addBob) rfl rfl)
  obtain ⟨tr, L, hrun, hturns, hdisk, hholder, hother, ⟨e, he, hbegins, hpre⟩,
      hbegin⟩ :=
    Shared.finish_alone hlock (p := true) rfl transaction_addBob
  have hasking : L.process false = .asking annRoot (next annRoot) := by
    rw [hother false (by decide)]
    rfl
  obtain ⟨tr', L', hrun', hp', hturns', hdisk', hholder', hbegin'⟩ :=
    Shared.look_alone hrun hasking
  have hmanifest : annRoot.manifest = L.disk.manifest := by
    have hann := (save_after (saved_oneItem "users" "ann" [("username", .str "ann")] .bare)).2.2.2
    change annRoot.manifest = _ at hann
    rw [hdisk]
    change _ = ((store.save sampleHost sampleJson twoUsers).after annRoot).manifest
    rw [(save_after (saved_twoUsers _)).2.2.2, hann]
    rfl
  refine ⟨_, L', hrun', ?_, hholder'.trans hholder, hdisk'.trans hdisk, ?_, ?_,
    fun e he f m hb => ?_⟩
  · rw [hp', hnext _ _ hmanifest, hdisk']
  · unfold Shared.turns at hturns hturns' ⊢
    rw [List.filterMap_append, List.filterMap_append, hturns, hturns']
    rfl
  · obtain ⟨loaded, hload, -⟩ := load_annRoot
    refine ⟨e, List.mem_append_left _ (List.mem_append_right _ he), loaded, addBob, _, hbegins, ?_,
      rfl⟩
    rw [hpre]
    exact hload
  · rcases List.mem_append.1 he with he | he
    · rcases List.mem_append.1 he with he | he
      · -- before it has the lock, nobody writes
        simp only [List.nil_append, List.cons_append, List.mem_cons, List.not_mem_nil,
          or_false] at he
        obtain ⟨q, hact, hq⟩ := hb
        rcases he with rfl | rfl | rfl | rfl
        · cases hact
        · obtain rfl := Move.read.inj hact
          cases hq
        · cases hact
        · cases hact
      · exact hbegin e he f m hb
    · exact absurd hb (hbegin' e he f m)

/-- The transaction is over, and has written what it writes alone; the query of the other process
    finds it. -/
theorem transactions_serialized_addBob : ∃ tr L, ∃ R evs,
    (store.sharedRoot sampleHost sampleJson Bool).Run atRest tr L ∧
    (∃ e ∈ tr, e.act = .answer false annRoot (store.load sampleHost R)) ∧
    (serial (store.transact sampleHost sampleJson)).Run annRoot evs R ∧
    evs.map (·.act) = [⟨addBob, false⟩] ∧ L.disk = R ∧
    ∃ loaded users, store.load sampleHost R = .ok loaded ∧
      loaded.items.lookup "users" = some (some users) ∧
      users.lookup "bob" = some (.obj [("username", .str "bob")]) := by
  obtain ⟨tr, L, hrun, hasking, hfree, hdisk, hturns, -⟩ := run_addBob
  have hanswer := hrun.snoc (.answer hasking)
  obtain ⟨R, evs, hserial, hevs, -, hR, -⟩ :=
    transactions_serialized sampleHost sampleJson hanswer ⟨rfl, fun _ => rfl⟩
  obtain rfl : L.disk = R := hR hfree
  refine ⟨_, _, L.disk, evs, hanswer, ⟨_, List.mem_append_right _ (List.mem_singleton_self _), rfl⟩,
    hserial, ?_, rfl, ?_⟩
  · rw [hevs]
    unfold Shared.turns at hturns ⊢
    rw [List.filterMap_append, hturns]
    rfl
  · obtain ⟨loaded, hload, hitems⟩ :=
      loaded_items written_annRoot keyed_twoUsers (saved_twoUsers annRoot)
    obtain ⟨collection, users, hcoll, hin, hlookup⟩ :=
      hitems ("users", "username") (by simp [itemCollections])
    rw [collection_twoUsers] at hcoll
    obtain rfl := Option.some.inj hcoll
    refine ⟨loaded, users, hdisk ▸ hload, hin, ?_⟩
    rw [hlookup]
    rfl

/-! ## What a load without the lock can see -/

section
variable (W : String → Fields → Prop)

/-- The items of a data directory are stored under their identities, and are as `W` says. -/
def Stocked (d : DataDir) : Prop :=
  ∀ c ∈ itemCollections, ∀ path v, (d.files (st.itemCollectionRoot c.1)).lookup path = some v →
    ∃ fields, v = .obj fields ∧ H.text fields c.2 ≠ "" ∧
      path = H.itemFile (H.text fields c.2) ∧ W c.1 fields

/-- A state root that can be loaded. -/
structure Loadable (R : Root E) : Prop where
  manifest : ∃ m, R.manifest = some m ∧ m.storageVersion = 2 ∧ m.stateVersion = stateVersion
  stocked : Stocked H st W (R.data st.dataName)

/-- The files that are there stay there. -/
structure DataExtends (d d' : DataDir) : Prop where
  files : ∀ c ∈ itemCollections, ∀ path ∈ d.files (st.itemCollectionRoot c.1),
    path ∈ d'.files (st.itemCollectionRoot c.1)
  values : ∀ path ∈ d.values, path ∈ d'.values

def Extends (R R' : Root E) : Prop := DataExtends st (R.data st.dataName) (R'.data st.dataName)

/-- The items of a state are as `W` says, once they are written. -/
def Writes (state : Snapshot E) : Prop :=
  ∀ c ∈ itemCollections, ∀ collection, state.collection c.1 = some collection →
    ∀ key fields, collection.lookup key = some (.obj fields) →
      W c.1 (st.externalizedItem H c.1 (Fields.setDefault c.2 (.str key) fields))

/-- What has been loaded of a collection since the state root was `R`: all items that were
    there, and each as `W` says. -/
structure CollectedSince (R : Root E) (c : String × String) (collection : Dict String Value) :
    Prop where
  items : ∀ key v, collection.lookup key = some v →
    ∃ fields, v = .obj fields ∧ H.text fields c.2 = key ∧ W c.1 fields
  all : ∀ path ∈ (R.data st.dataName).files (st.itemCollectionRoot c.1),
    ∃ key ∈ collection, path = H.itemFile key

/-- What has been loaded since the state root was `R`. -/
def LoadedSince (R : Root E) (state : Snapshot E) : Prop :=
  ∀ c ∈ itemCollections, ∃ collection, state.items.lookup c.1 = some (some collection) ∧
    CollectedSince H st W R c collection

end

/-- A state is saved that has all items of the one that was loaded, under their identities. -/
structure Keeps (state state' : Snapshot E) : Prop where
  keyed : KeyedItems H state'
  kept : ∀ c ∈ itemCollections, ∀ collection collection', state.collection c.1 = some collection →
    state'.collection c.1 = some collection' → ∀ key ∈ collection, key ∈ collection'

section
variable {H J st} {W : String → Fields → Prop} {R R' : Root E}

theorem Extends.refl (R : Root E) : Extends st R R := ⟨fun _ _ _ h => h, fun _ h => h⟩

theorem Extends.trans (R₁ R₂ R₃ : Root E) (h₁ : Extends st R₁ R₂) (h₂ : Extends st R₂ R₃) :
    Extends st R₁ R₃ :=
  ⟨fun c hc path h => h₂.files c hc path (h₁.files c hc path h),
    fun path h => h₂.values path (h₁.values path h)⟩

/-- A listed file is still there, and holds an item. -/
theorem under_scanItem {c : String × String} (hc : c ∈ itemCollections)
    {collection : Dict String Value} {path : String}
    (hpath : path ∈ (R.data st.dataName).files (st.itemCollectionRoot c.1)) :
    (st.scanItem H c.1 c.2 collection path).Under (Loadable H st W) (Extends st)
      (fun collection' => ∃ fields, H.text fields c.2 ≠ "" ∧ W c.1 fields ∧
        path = H.itemFile (H.text fields c.2) ∧
        collection' = collection.insert (H.text fields c.2) (.obj fields)) R := by
  refine Scan.under_look.2 fun R' hext hload => ?_
  obtain ⟨v, hv⟩ := Dict.mem_iff_lookup.1 (hext.files c hc path hpath)
  obtain ⟨fields, rfl, hne, hfile, hW⟩ := hload.stocked c hc path v hv
  refine ⟨_, ?_, fields, hne, hW, hfile, rfl⟩
  rw [hv]
  dsimp only
  rw [require, if_pos hne]
  rfl

/-- **A collection that is read without the lock.** -/
theorem under_scanItemCollection {c : String × String} (hc : c ∈ itemCollections) (R : Root E) :
    (st.scanItemCollection H c.1 c.2).Under (Loadable H st W) (Extends st)
      (CollectedSince H st W R c) R := by
  unfold scanItemCollection
  refine Scan.under_look_bind.2 fun R₁ hext _ => ?_
  set paths := ((R₁.data st.dataName).files (st.itemCollectionRoot c.1)).keys.mergeSort (· ≤ ·)
    with hpaths
  have hmem : ∀ path, path ∈ paths ↔ path ∈ (R₁.data st.dataName).files
      (st.itemCollectionRoot c.1) := fun path =>
    (List.mergeSort_perm _ _).mem_iff.trans AList.mem_keys.symm
  change (paths.foldlM (st.scanItem H c.1 c.2) ∅ : Scan Err (Root E) _).Under _ _ _ R₁
  have hloop := Scan.Under.foldlM (I := Loadable H st W) (R := Extends st) (l := paths) (s := R₁)
    (f := st.scanItem H c.1 c.2) (b := ∅)
    (P := fun done collection => (∀ key v, AList.lookup key collection = some v →
        ∃ fields, v = .obj fields ∧ H.text fields c.2 = key ∧ W c.1 fields) ∧
      ∀ path ∈ done, ∃ key ∈ collection, path = H.itemFile key)
    Extends.trans Extends.refl ?_ ?_
  · refine hloop.mono fun collection h => ⟨h.1, fun path hpath => ?_⟩
    exact h.2 path ((hmem path).2 (hext.files c hc path hpath))
  · rintro done path rest collection R₂ hl hR₂ ⟨hitems, hall⟩
    have hpath : path ∈ paths := hl ▸ List.mem_append_right _ List.mem_cons_self
    refine (under_scanItem hc (hR₂.files c hc path ((hmem path).1 hpath))).mono ?_
    rintro _ ⟨fields, -, hW, hfile, rfl⟩
    refine ⟨fun key v hv => ?_, fun path' hpath' => ?_⟩
    · rw [Dict.lookup_insert_of] at hv
      split_ifs at hv with hkey
      · exact ⟨fields, (Option.some.inj hv).symm, hkey.symm, hW⟩
      · exact hitems key v hv
    · rcases List.mem_append.1 hpath' with h | h
      · obtain ⟨key, hkey, hfile'⟩ := hall path' h
        exact ⟨key, (AList.mem_insert _).2 (.inr hkey), hfile'⟩
      · exact ⟨H.text fields c.2, (AList.mem_insert _).2 (.inl rfl), List.mem_singleton.1 h ▸ hfile⟩
  · refine ⟨fun key v hv => ?_, fun path hpath => absurd hpath List.not_mem_nil⟩
    rw [AList.lookup_empty] at hv
    cases hv

theorem under_scanValue (name : String) (default : Value) (R : Root E) :
    (st.scanValue name default).Under (Loadable H st W) (Extends st) (fun _ => True) R := by
  unfold scanValue
  refine Scan.under_look_bind.2 fun R₁ _ _ => ?_
  change (ite _ _ _ : Scan Err (Root E) Value).Under _ _ _ R₁
  split_ifs with hpresent
  · refine Scan.under_look.2 fun R₂ hext _ => ?_
    obtain ⟨v, hv⟩ := Dict.mem_iff_lookup.1 (hext.values _ (of_decide_eq_true hpresent))
    exact ⟨v, by rw [hv], trivial⟩
  · exact ⟨default, rfl, trivial⟩

/-- **A load without the lock.** -/
theorem under_scanLoad (R : Root E) : (st.scanLoad H).Under (Loadable H st W) (Extends st)
    (LoadedSince H st W R) R := by
  unfold scanLoad
  refine Scan.Under.bind (P := fun _ => True) Extends.trans Extends.refl ?_ fun m R₁ hR₁ _ => ?_
  · refine Scan.under_look.2 fun R₁ _ hload => ?_
    obtain ⟨m, hm, hv, hs⟩ := hload.manifest
    refine ⟨m, ?_, trivial⟩
    rw [hm]
    dsimp only
    rw [require, if_pos hv, require, if_pos hs]
    rfl
  refine Scan.Under.bind Extends.trans Extends.refl
    (Scan.Under.foldlM (P := fun done items => ∀ c ∈ done, ∃ collection,
      AList.lookup c.1 items = some (some collection) ∧ CollectedSince H st W R c collection)
      Extends.trans Extends.refl ?_ fun c hc => absurd hc List.not_mem_nil)
    fun items R₂ _ hitems => ?_
  · intro done c rest items R₂ hl hR₂ hdone
    have hc : c ∈ itemCollections := hl ▸ List.mem_append_right _ List.mem_cons_self
    refine (under_scanItemCollection hc R₂).bind Extends.trans Extends.refl
      fun collection R₃ _ hcollected => ⟨_, rfl, fun c' hc' => ?_⟩
    have hsince : CollectedSince H st W R c collection :=
      ⟨hcollected.items, fun path hpath => hcollected.all path
        (hR₂.files c hc path (hR₁.files c hc path hpath))⟩
    rcases List.mem_append.1 hc' with h | h
    · -- each collection is loaded once
      have hne : c'.1 ≠ c.1 := by
        have hnodup : (itemCollections.map Prod.fst).Nodup := by decide
        rw [hl, List.map_append, List.map_cons] at hnodup
        rintro heq
        exact (List.nodup_append.1 hnodup).2.2 _ (List.mem_map_of_mem h) _ List.mem_cons_self heq
      obtain ⟨collection', hlookup, hcollected'⟩ := hdone c' h
      exact ⟨collection', by rw [Dict.lookup_insert_of, if_neg hne, hlookup], hcollected'⟩
    · obtain rfl := List.mem_singleton.1 h
      exact ⟨collection, by rw [Dict.lookup_insert_of, if_pos rfl], hsince⟩
  refine Scan.Under.bind Extends.trans Extends.refl
    (Scan.Under.foldlM (P := fun _ _ => True) Extends.trans Extends.refl ?_ trivial)
    fun values R₃ _ _ => ⟨_, rfl, hitems⟩
  intro done v rest values R₃ _ _ _
  exact (under_scanValue v.1 v.2 R₃).bind Extends.trans Extends.refl
    fun value R₄ _ _ => ⟨_, rfl, trivial⟩

/-! ## What a save does to such a load -/

/-- A data directory while `state'` is saved to it: it is stocked, and has no file that would
    have to go. -/
structure Covered (H : Host) (st : SplitStateStorage) (W : String → Fields → Prop)
    (state' : Snapshot E) (d : DataDir) : Prop where
  stocked : Stocked H st W d
  kept : ∀ c ∈ itemCollections, ∀ collection, state'.collection c.1 = some collection →
    ∀ path ∈ d.files (st.itemCollectionRoot c.1), path ∈ collection.keys.map H.itemFile

variable {state' : Snapshot E} {d d' : DataDir}

theorem DataExtends.of_view (h : (d'.items, d'.values) = (d.items, d.values)) :
    DataExtends st d d' := by
  obtain ⟨hi, hv⟩ := Prod.mk.inj h
  refine ⟨fun c _ path hpath => ?_, fun path hpath => ?_⟩
  · unfold DataDir.files at hpath ⊢
    rwa [hi]
  · rwa [hv]

theorem Covered.of_view (hc : Covered H st W state' d)
    (h : (d'.items, d'.values) = (d.items, d.values)) : Covered H st W state' d' := by
  have hfiles : d'.files = d.files := by
    funext dir
    unfold DataDir.files
    rw [(Prod.mk.inj h).1]
  refine ⟨?_, ?_⟩
  · unfold Stocked
    rw [hfiles]
    exact hc.stocked
  · rw [hfiles]
    exact hc.kept

theorem steps_saveLogs (state : Snapshot E) :
    (saveLogs J state).Steps (Covered H st W state') (DataExtends st) := by
  refine .forEach fun e _ => .of_spares (fun d => (d.items, d.values)) ?_
    (fun _ _ h hc => hc.of_view h) fun _ _ => .of_view
  intro d d' hd
  cases hlog : e.2 with
  | none =>
    rw [hlog] at hd
    obtain rfl := (Durable.leaves_pure d ()).1 hd
    rfl
  | some entries =>
    rw [hlog] at hd
    rcases Durable.leaves_zoom.1 hd with rfl | ⟨dir, -, rfl⟩
    · rfl
    · rfl

theorem steps_saveValues (state : Snapshot E) :
    (saveValues state).Steps (Covered H st W state') (DataExtends st) := by
  refine .forEach fun v _ => .write fun d hc => ⟨⟨fun _ _ _ h => h, fun path hpath => ?_⟩, ?_⟩
  · exact (AList.mem_insert _).2 (.inr hpath)
  · exact ⟨hc.stocked, hc.kept⟩

theorem DistinctDirs.eq_of_root (hdirs : DistinctDirs st) {c c' : String × String}
    (hc : c ∈ itemCollections) (hc' : c' ∈ itemCollections)
    (h : st.itemCollectionRoot c'.1 = st.itemCollectionRoot c.1) : c' = c := by
  by_contra hne
  have hsymm : Std.Symm fun c c' : String × String =>
      st.itemCollectionRoot c.1 ≠ st.itemCollectionRoot c'.1 := ⟨fun _ _ h => h.symm⟩
  exact List.Pairwise.forall hdirs hc' hc hne h

/-- An item goes to its own file. -/
theorem steps_saveItem (hdirs : DistinctDirs st) {c : String × String} (hc : c ∈ itemCollections)
    (hkeyed : KeyedItems H state') {collection : Dict String Value}
    (hcollection : state'.collection c.1 = some collection)
    (hwritten : ∀ key fields, collection.lookup key = some (.obj fields) →
      W c.1 (st.externalizedItem H c.1 (Fields.setDefault c.2 (.str key) fields)))
    {key : String} {item : Value} (hitem : collection.lookup key = some item) :
    (st.saveItem H c.1 c.2 key item).Steps (Covered H st W state') (DataExtends st) := by
  cases item with
  | obj fields =>
    have hcomputes : Durable.Computes DataDir.Grows
        (st.externalizeItem H c.1 (Fields.setDefault c.2 (.str key) fields))
        (st.externalizedItem H c.1 (Fields.setDefault c.2 (.str key) fields)) :=
      externalizeItem_computes _ _
    refine .bind (.of_spares (fun d => (d.items, d.values)) ?_
      (fun _ _ h hc => hc.of_view h) fun _ _ => .of_view) fun d persisted _ hpersisted => ?_
    · intro d d' hd
      have hgrows := (hcomputes d).2 d' hd
      rw [hgrows.items, hgrows.values]
    · obtain rfl := Except.ok.inj ((hcomputes d).1.symm.trans hpersisted)
      obtain ⟨hkey, hid⟩ := hkeyed c hc collection hcollection key fields hitem
      have htext : H.text (st.externalizedItem H c.1
          (Fields.setDefault c.2 (.str key) fields)) c.2 = key := text_persisted hc hkey hid
      have hW := hwritten key fields hitem
      generalize st.externalizedItem H c.1 _ = persisted at htext hW
      refine .write fun d hcov => ⟨⟨fun c' hc' path hpath => ?_, fun _ h => h⟩, ?_, ?_⟩
      · rw [DataDir.files_setFiles]
        split_ifs with hroot
        · exact (AList.mem_insert _).2 (.inr (hroot ▸ hpath))
        · exact hpath
      · intro c' hc' path v hv
        rw [DataDir.files_setFiles] at hv
        split_ifs at hv with hroot
        · obtain rfl := hdirs.eq_of_root hc hc' hroot
          rw [Dict.lookup_insert_of] at hv
          split_ifs at hv with hpath
          · exact ⟨persisted, (Option.some.inj hv).symm, htext ▸ hkey, by rw [htext, hpath], hW⟩
          · exact hcov.stocked c' hc' path v hv
        · exact hcov.stocked c' hc' path v hv
      · intro c' hc' collection' hcollection' path hpath
        rw [DataDir.files_setFiles] at hpath
        split_ifs at hpath with hroot
        · obtain rfl := hdirs.eq_of_root hc hc' hroot
          rcases (AList.mem_insert _).1 hpath with rfl | hpath
          · obtain rfl := Option.some.inj (hcollection.symm.trans hcollection')
            exact List.mem_map_of_mem (AList.mem_keys.1 (Dict.mem_iff_lookup.2 ⟨_, hitem⟩))
          · exact hcov.kept c' hc' collection' hcollection' path hpath
        · exact hcov.kept c' hc' collection' hcollection' path hpath
  | _ => exact .of_nil fun _ _ => rfl

/-- Nothing is removed that belongs to an item. -/
theorem steps_unlinkStale {c : String × String} (hc : c ∈ itemCollections)
    {collection : Dict String Value} (hcollection : state'.collection c.1 = some collection) :
    (st.unlinkStale H c.1 collection).Steps (Covered H st W state') (DataExtends st) := by
  unfold unlinkStale
  refine .bind (.of_nil fun _ _ => rfl) fun d paths hcov hpaths => .forEach fun path hpath => ?_
  obtain rfl := Except.ok.inj hpaths
  rw [if_pos (hcov.kept c hc collection hcollection path (AList.mem_keys.2 hpath))]
  exact .of_nil fun _ _ => rfl

theorem steps_saveItems (hdirs : DistinctDirs st) (hkeyed : KeyedItems H state')
    (hw : Writes H st W state') {c : String × String} (hc : c ∈ itemCollections) :
    (st.saveItems H state' c.1 c.2).Steps (Covered H st W state') (DataExtends st) := by
  unfold saveItems
  cases hcollection : state'.collection c.1 with
  | none => exact .of_nil fun _ _ => rfl
  | some collection =>
    refine .bind (.forEach fun e he => ?_) fun _ _ _ _ => steps_unlinkStale hc hcollection
    exact steps_saveItem hdirs hc hkeyed hcollection (hw c hc collection hcollection)
      (AList.mem_lookup_iff.2 he)

theorem steps_saveData (hdirs : DistinctDirs st) (hkeyed : KeyedItems H state')
    (hw : Writes H st W state') :
    (st.saveData H J state').Steps (Covered H st W state') (DataExtends st) :=
  .bind (steps_saveLogs state') fun _ _ _ _ =>
    .bind (.forEach fun _ hc => steps_saveItems hdirs hkeyed hw hc) fun _ _ _ _ =>
      steps_saveValues state'

/-- **Each write of a save keeps what a load without the lock needs.** -/
theorem steps_save (hdirs : DistinctDirs st) (hkeyed : KeyedItems H state')
    (hw : Writes H st W state') :
    (st.save H J state').Steps
      (fun R => Loadable H st W R ∧ Covered H st W state' (R.data st.dataName)) (Extends st) := by
  have hset (R : Root E) (d : DataDir) : (R.setData st.dataName d).data st.dataName = d := by
    rw [Root.data_setData, if_pos rfl]
  have hkeep (R : Root E) (d : DataDir)
      (hR : Loadable H st W R ∧ Covered H st W state' (R.data st.dataName))
      (hd : Covered H st W state' d) : Loadable H st W (R.setData st.dataName d) ∧
        Covered H st W state' ((R.setData st.dataName d).data st.dataName) := by
    rw [hset]
    exact ⟨⟨hR.1.manifest, by rw [hset]; exact hd.stocked⟩, hd⟩
  unfold save
  refine .bind (.of_nil fun R _ => ?_) fun _ _ _ _ => .bind (.write fun R hR => ?_) fun _ _ _ _ =>
    .bind (.zoom (steps_saveData hdirs hkeyed hw) (fun _ hR => hR.2) hkeep (fun R d hd => ?_)
      fun R d d' hd => ?_) fun _ _ _ _ => .of_nil fun R hR => ?_
  · unfold Durable.require
    split_ifs <;> rfl
  · refine ⟨?_, hkeep R _ hR hR.2⟩
    unfold Extends
    rw [hset]
    exact .of_view rfl
  · unfold Extends
    rwa [hset]
  · unfold Extends
    rwa [hset, hset]
  · -- the manifest is there
    obtain ⟨m, hm, -⟩ := hR.1.manifest
    change ((if R.manifest.isSome then pure () else _ : Durable Err (Root E) Unit) R).1 = []
    rw [hm]
    rfl

/-- What a transaction comes to when it has read the state root `R`. -/
theorem transaction_alone {f : Work E} {m : Durable Err (Root E) Unit}
    (h : (st.transaction H J f).alone R = .ok m) : ∃ state, st.load H R = .ok state ∧
      (f R state = .ok none ∧ m = pure () ∨
        ∃ state', f R state = .ok (some state') ∧ m = st.save H J state') := by
  unfold transaction at h
  rw [Scan.alone_bind, alone_scanLoad] at h
  obtain ⟨state, hl, h⟩ := Except.bind_eq_ok.1 h
  rw [Scan.alone_bind, Scan.alone_look] at h
  obtain ⟨saved, hsaved, h⟩ := Except.bind_eq_ok.1 h
  refine ⟨state, hl, ?_⟩
  cases saved with
  | none => exact .inl ⟨hsaved, (Except.ok.inj h).symm⟩
  | some state' => exact .inr ⟨state', hsaved, (Except.ok.inj h).symm⟩

/-- **So does a transaction that drops no item.** -/
theorem steps_begin (hdirs : DistinctDirs st) {f : Work E} {m : Durable Err (Root E) Unit}
    (hm : (st.transaction H J f).alone R = .ok m) (hR : Loadable H st W R)
    (hkeeps : ∀ state state', st.load H R = .ok state → f R state = .ok (some state') →
      Keeps H state state' ∧ Writes H st W state') :
    (R :: (m R).1).IsChain (Extends st) ∧ ∀ R' ∈ (m R).1, Loadable H st W R' := by
  obtain ⟨state, hl, ⟨-, rfl⟩ | ⟨state', hf, rfl⟩⟩ := transaction_alone hm
  · exact ⟨List.isChain_singleton R, fun _ h => absurd h List.not_mem_nil⟩
  · obtain ⟨hkeeps, hwrites⟩ := hkeeps state state' hl hf
    -- what is on disk has been loaded
    have hcovered : Covered H st W state' (R.data st.dataName) := by
      refine ⟨hR.stocked, fun c hc collection' hcollection' path hpath => ?_⟩
      obtain ⟨loaded, hloaded, hsince⟩ := (under_scanLoad R).alone Extends.refl hR
      rw [alone_scanLoad, hl] at hloaded
      obtain rfl := Except.ok.inj hloaded
      obtain ⟨collection, hlookup, hcollected⟩ := hsince c hc
      obtain ⟨key, hkey, rfl⟩ := hcollected.all path hpath
      have hcollection : state.collection c.1 = some collection := by
        unfold Snapshot.collection
        rw [hlookup]
        rfl
      exact List.mem_map_of_mem (AList.mem_keys.1
        (hkeeps.kept c hc collection collection' hcollection hcollection' key hkey))
    obtain ⟨hchain, hall⟩ := steps_save (J := J) hdirs hkeeps.keyed hwrites R ⟨hR, hcovered⟩
    exact ⟨hchain, fun R' hR' => (hall R' hR').1⟩

end

section

variable {ι : Type}

/-- The item is on disk in `R`, or it belongs to a state that a process saves in `tr`. -/
def Found (R : Root E)
    (tr : List (TransitionSystem.Event (Shared ι Err (Root E) (Snapshot E) (Work E))
      (Move ι Err (Root E) (Snapshot E) (Work E)))) (name : String) (fields : Fields) : Prop :=
  (∃ path, ((R.data st.dataName).files (st.itemCollectionRoot name)).lookup path =
      some (.obj fields)) ∨
    ∃ e ∈ tr, ∃ state state', Saving H st e state state' ∧ ∃ identity collection key item,
      (name, identity) ∈ itemCollections ∧ state'.collection name = some collection ∧
      collection.lookup key = some (.obj item) ∧
      fields = st.externalizedItem H name (Fields.setDefault identity (.str key) item)

end

/-- **Loads without the lock**: while processes run transactions that drop no item, in any order
    of their reads and writes and with any of them killed, no load fails. It has all items that
    were there when it began, and each as it was on disk at the start or as a save of the run
    writes it. -/
theorem unlocked_load {ι : Type} [DecidableEq ι]
    {L₀ L : Shared ι Err (Root E) (Snapshot E) (Work E)}
    {tr : List (TransitionSystem.Event (Shared ι Err (Root E) (Snapshot E) (Work E))
      (Move ι Err (Root E) (Snapshot E) (Work E)))}
    (h : (store.sharedRoot H J ι).Run L₀ tr L) (h₀ : (store.sharedRoot H J ι).init L₀)
    (hload : Loadable H store (fun _ _ => True) L₀.disk)
    (hkeeps : ∀ e ∈ tr, ∀ state state', Saving H store e state state' → Keeps H state state') :
    Loadable H store (Found H store L₀.disk tr) L.disk ∧
      ∀ p since result L', (store.sharedRoot H J ι).step L (.answer p since result) L' →
        ∃ state, result = .ok state ∧ LoadedSince H store (Found H store L₀.disk tr) since state := by
  have hstart : Loadable H store (Found H store L₀.disk tr) L₀.disk := by
    refine ⟨hload.manifest, fun c hc path v hv => ?_⟩
    obtain ⟨fields, rfl, hne, hfile, -⟩ := hload.stocked c hc path v hv
    exact ⟨fields, rfl, hne, hfile, .inl ⟨path, hv⟩⟩
  have hbegin : ∀ e ∈ tr, ∀ f m, Shared.Begins e f m →
      (store.transaction H J f).alone e.pre.disk = .ok m →
      Loadable H store (Found H store L₀.disk tr) e.pre.disk →
      (e.pre.disk :: (m e.pre.disk).1).IsChain (Extends store) ∧
        ∀ R ∈ (m e.pre.disk).1, Loadable H store (Found H store L₀.disk tr) R := by
    intro e he f m hbegins hm hdisk
    refine steps_begin store_distinctDirs hm hdisk fun state state' hl hf => ?_
    have hsaving : Saving H store e state state' := ⟨f, m, hbegins, hl, hf⟩
    exact ⟨hkeeps e he state state' hsaving, fun c hc collection hcollection key item hitem =>
      .inr ⟨e, he, state, state', hsaving, c.2, collection, key, item, hc, hcollection, hitem, rfl⟩⟩
  refine ⟨(Shared.answered Extends.trans Extends.refl (fun R _ => under_scanLoad R) h h₀ hstart
    hbegin).1, fun p since result L' hs => ?_⟩
  refine (Shared.answered Extends.trans Extends.refl (fun R _ => under_scanLoad R) (h.snoc hs) h₀
    hstart fun e he => ?_).2 _ (List.mem_append_right _ (List.mem_singleton_self _)) p since result
      rfl
  rcases List.mem_append.1 he with he | he
  · exact hbegin e he
  · rw [List.mem_singleton.1 he]
    rintro f m ⟨q, ⟨⟩, _⟩

section
variable {H J}

/-- A save of items under their identities leaves a state root that can be loaded. -/
theorem loadable_after {R : Root E} {state : Snapshot E} (hR : R.Current)
    (hkeyed : KeyedItems H state) (hok : (store.save H J state).result R = .ok ()) :
    Loadable H store (fun _ _ => True) ((store.save H J state).after R) := by
  refine ⟨current_after hR hok, fun c hc path v hv => ?_⟩
  obtain ⟨collection, hcollection, hall, hfiles⟩ := saved_collection hok hc
  have hfile := congrFun hfiles path
  rw [hfile, savedFile_eq_some hall] at hv
  obtain ⟨key, fields, hk, rfl, rfl⟩ := hv
  obtain ⟨hkey, hid⟩ := hkeyed c hc collection hcollection key fields hk
  have htext := @text_persisted H store c hc key fields hkey hid
  refine ⟨_, rfl, ?_, ?_, trivial⟩
  · rw [htext]
    exact hkey
  · rw [htext]

end

/-- The load that was interrupted by the save does not fail, and finds both users. -/
theorem unlocked_load_addBob : ∃ tr L, ∃ state users,
    (store.sharedRoot sampleHost sampleJson Bool).Run atRest tr L ∧
    (∃ e ∈ tr, ∃ loaded, Saving sampleHost store e loaded twoUsers) ∧
    (∃ L', (store.sharedRoot sampleHost sampleJson Bool).step L
      (.answer false annRoot (.ok state)) L') ∧
    LoadedSince sampleHost store (Found sampleHost store annRoot tr) annRoot state ∧
    state.items.lookup "users" = some (some users) ∧ "ann" ∈ users ∧ "bob" ∈ users := by
  obtain ⟨tr, L, hrun, hasking, -, hdisk, -, hsaving, hbegin⟩ := run_addBob
  obtain ⟨loaded, hann, hcollections⟩ := load_annRoot
  have hbare : Written sampleHost sampleJson store .bare := .bare
  have hload : Loadable sampleHost store (fun _ _ => True) atRest.disk :=
    loadable_after hbare.current (keyed_oneUser (by decide)) (saved_oneItem "users" "ann" _ _)
  have hkeeps : ∀ e ∈ tr, ∀ state state', Saving sampleHost store e state state' →
      Keeps sampleHost state state' := by
    rintro e he state state' ⟨f, m, hb, hl, hf⟩
    obtain ⟨rfl, hpre⟩ := hbegin e he f m hb
    obtain rfl : twoUsers = state' := Option.some.inj (Except.ok.inj hf)
    rw [hpre, hann] at hl
    obtain rfl := Except.ok.inj hl
    refine ⟨keyed_twoUsers, fun c hc collection collection' hcoll hcoll' key hkey => ?_⟩
    -- the only user that has been loaded is saved again
    obtain ⟨saved, items, hsaved, hin, hlookup⟩ := hcollections c hc
    have hcollection : loaded.collection c.1 = some items := by
      unfold Snapshot.collection
      rw [hin]
      rfl
    obtain rfl := Option.some.inj (hcollection.symm.trans hcoll)
    obtain ⟨v, hv⟩ := Dict.mem_iff_lookup.1 hkey
    rw [hlookup] at hv
    obtain ⟨item, hitem, -⟩ := Option.map_eq_some_iff.1 hv
    rw [oneUser, collection_oneItem] at hsaved
    obtain rfl := Option.some.inj hsaved
    rw [collection_twoUsers] at hcoll'
    obtain rfl := Option.some.inj hcoll'
    split_ifs at hitem ⊢ with hname
    · rw [Dict.lookup_insert_of] at hitem
      split_ifs at hitem with hkey
      · exact (AList.mem_insert _).2 (.inr ((AList.mem_insert _).2 (.inl hkey)))
      · cases hitem
    · cases hitem
  obtain ⟨-, hall⟩ :=
    unlocked_load sampleHost sampleJson hrun ⟨rfl, fun _ => rfl⟩ hload hkeeps
  obtain ⟨state, hstate, hsince⟩ := hall false annRoot _ _ (.answer hasking)
  rw [hstate] at hasking
  obtain ⟨loaded', hload', hitems⟩ :=
      loaded_items written_annRoot keyed_twoUsers (saved_twoUsers annRoot)
  rw [hdisk, hload'] at hstate
  obtain rfl := Except.ok.inj hstate
  obtain ⟨collection, users, hcoll, hin, hlookup⟩ :=
      hitems ("users", "username") (by simp [itemCollections])
  rw [collection_twoUsers] at hcoll
  obtain rfl := Option.some.inj hcoll
  refine ⟨tr, L, loaded', users, hrun, hsaving, ⟨_, .answer hasking⟩, hsince, hin, ?_, ?_⟩
  · refine Dict.mem_iff_lookup.2 ⟨.obj [("username", .str "ann")], ?_⟩
    rw [hlookup]
    rfl
  · refine Dict.mem_iff_lookup.2 ⟨.obj [("username", .str "bob")], ?_⟩
    rw [hlookup]
    rfl

end SplitStateStorage
end Aize
