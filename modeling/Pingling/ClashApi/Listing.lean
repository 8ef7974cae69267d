import Pingling.ClashApi.Selectors

/-!
# What the client makes of a listing

The server lists its proxies in a JSON document, each under its name with what there is to say
about it. The client that asks for them gets the selectors among them, and of each what the server
said, in the order of their names.
-/

namespace Pingling.ClashApi
open Lib

variable {F : Type}

/-- A proxy as the server lists it: what the client asks about, and further entries. -/
structure ListedProxy where
  name : String
  kind : String
  now : Option String
  all : Option (List String)
  further : List (String × Value)

namespace ListedProxy

def fields (proxy : ListedProxy) : List (String × Option Value) :=
  [("type", some (.string proxy.kind)), ("now", proxy.now.map .string),
    ("all", proxy.all.map fun names => .array (names.map .string))]

def entries (proxy : ListedProxy) : List (String × Value) :=
  present proxy.fields ++ proxy.further

def document (proxy : ListedProxy) : Value :=
  .object proxy.entries

/-- No entry of the proxy is repeated. -/
def WellFormed (proxy : ListedProxy) : Prop :=
  (proxy.fields.map Prod.fst ++ proxy.further.map Prod.fst).Nodup

/-- The type of the proxy is that of selectors. -/
def IsSelector (proxy : ListedProxy) : Prop :=
  eqIgnoreAsciiCase proxy.kind "selector" = true

def selector (proxy : ListedProxy) : ProxySelector where
  name := proxy.name
  kind := proxy.kind
  now := proxy.now
  all := proxy.all.getD []

end ListedProxy

/-- The document of a listing. -/
def listing (proxies : List ListedProxy) : Value :=
  .object [("proxies", .object (proxies.map fun proxy => (proxy.name, proxy.document)))]

namespace ListedProxy

variable {proxy : ListedProxy}

lemma nodup_entries (h : proxy.WellFormed) : (proxy.entries.map Prod.fst).Nodup := by
  rw [entries, List.map_append]
  exact h.sublist ((present_keys_sublist proxy.fields).append_right _)

/-- The entries that the client asks about are those of the proxy. -/
lemma lookup_entries (h : proxy.WellFormed) {name : String}
    (hname : name ∈ proxy.fields.map Prod.fst) :
    proxy.entries.lookup name = fieldValue proxy.fields name := by
  obtain ⟨hfields, -, hdisjoint⟩ := List.nodup_append'.mp h
  have hfurther : proxy.further.lookup name = none := by
    rw [List.lookup_eq_none_iff]
    intro entry hentry
    rw [bne_iff_ne]
    rintro rfl
    exact hdisjoint hname (List.mem_map_of_mem hentry)
  rw [entries, List.lookup_append, lookup_present hfields, hfurther, Option.or_none]

/-- What the client reads from the document of a proxy. -/
lemma ofEntry_document (h : proxy.WellFormed) (selector : ProxySelector) :
    ProxySelector.ofEntry proxy.name proxy.document.canonical = some selector ↔
      proxy.IsSelector ∧ selector = proxy.selector := by
  have hfield : ∀ name ∈ ["type", "now", "all"],
      (json (Value.canonicalEntries proxy.entries)).entries.lookup name =
        (fieldValue proxy.fields name).map Value.canonical := by
    intro name hname
    rw [Value.lookup_canonical (nodup_entries h), lookup_entries h hname]
  have hkind : ((json (Value.canonicalEntries proxy.entries)).entries.lookup "type").bind
      WireFormat.asString = some proxy.kind := by
    rw [hfield "type" (by decide)]
    rfl
  have hnow : ((json (Value.canonicalEntries proxy.entries)).entries.lookup "now").bind
      WireFormat.asString = proxy.now := by
    have hvalue : fieldValue proxy.fields "now" = proxy.now.map .string := rfl
    rw [hfield "now" (by decide), hvalue]
    cases proxy.now <;> rfl
  have hall : ((((json (Value.canonicalEntries proxy.entries)).entries.lookup "all").bind
      WireFormat.asArray).getD []).filterMap WireFormat.asString = proxy.all.getD [] := by
    have hvalue : fieldValue proxy.fields "all" =
        proxy.all.map fun names => .array (names.map .string) := rfl
    rw [hfield "all" (by decide), hvalue]
    cases proxy.all with
    | none => rfl
    | some names =>
      have hcanonical : Value.canonicalItems (names.map .string) = names.map .string := by
        rw [Value.canonicalItems_eq, List.map_map]
        rfl
      change (Value.canonicalItems (names.map .string)).filterMap WireFormat.asString = names
      rw [hcanonical, List.filterMap_map]
      exact List.filterMap_some
  have hentry : ProxySelector.ofEntry proxy.name proxy.document.canonical =
      if eqIgnoreAsciiCase proxy.kind "selector" then some proxy.selector else none := by
    change (let kind := (((json (Value.canonicalEntries proxy.entries)).entries.lookup "type").bind
        WireFormat.asString).getD ""
      if eqIgnoreAsciiCase kind "selector" then some (ProxySelector.mk proxy.name kind _ _)
      else none) = _
    simp only [hkind, hnow, hall, Option.getD_some]
    rfl
  rw [hentry, Option.ite_none_right_eq_some, Option.some.injEq]
  exact and_congr_right fun _ => eq_comm

end ListedProxy

/-- The client finds the document of each proxy under its name, and nothing else. -/
lemma proxiesIn_listing {proxies : List ListedProxy}
    (hnames : (proxies.map ListedProxy.name).Nodup) :
    ∃ found, proxiesIn (listing proxies).canonical = some found ∧
      ∀ name value, found[name]? = some value ↔
        ∃ proxy ∈ proxies, proxy.name = name ∧ proxy.document.canonical = value := by
  let es := proxies.map fun proxy => (proxy.name, proxy.document)
  have hkeys : (es.map Prod.fst).Nodup := by
    rw [List.map_map]
    exact hnames
  obtain ⟨found, hread, hlookup⟩ := Value.read_map hkeys
  refine ⟨found, hread, fun name value => ?_⟩
  rw [hlookup, Option.map_eq_some_iff]
  constructor
  · rintro ⟨document, hdocument, rfl⟩
    obtain ⟨proxy, hproxy, heq⟩ := List.mem_map.mp (mem_of_lookup_eq_some hdocument)
    obtain ⟨rfl, rfl⟩ := Prod.mk.inj heq
    exact ⟨proxy, hproxy, rfl, rfl⟩
  · rintro ⟨proxy, hproxy, rfl, rfl⟩
    have hmem : (proxy.name, proxy.document) ∈ es := List.mem_map_of_mem hproxy
    exact ⟨proxy.document, lookup_eq_some_of_mem hkeys hmem, rfl⟩

lemma ofEntry_name {name : String} {value : Value} {selector : ProxySelector}
    (h : ProxySelector.ofEntry name value = some selector) : selector.name = name := by
  obtain ⟨object, -, h⟩ := Option.bind_eq_some_iff.mp h
  obtain ⟨-, h⟩ := Option.ite_none_right_eq_some.mp h
  rw [← Option.some.inj h]

/-- Picking from the entries of a map keeps the order of the keys. -/
lemma pairwise_filterMap_entries {proxies : BTreeMap String Value} :
    (proxies.toList.filterMap fun entry => ProxySelector.ofEntry entry.1 entry.2).Pairwise
      (fun selector selector' => compare selector.name selector'.name = .lt) := by
  rw [List.pairwise_filterMap]
  refine List.Pairwise.imp (fun {entry entry'} hlt => ?_) Std.ExtTreeMap.ordered_keys_toList
  intro selector hselector selector' hselector'
  rw [ofEntry_name hselector, ofEntry_name hselector']
  exact hlt

/-- The selectors that the client picks are those of the listing. -/
lemma mem_filterMap_listing {proxies : List ListedProxy}
    (hfields : ∀ proxy ∈ proxies, proxy.WellFormed) {found : BTreeMap String Value}
    (hfound : ∀ name value, found[name]? = some value ↔
      ∃ proxy ∈ proxies, proxy.name = name ∧ proxy.document.canonical = value)
    (selector : ProxySelector) :
    selector ∈ found.toList.filterMap (fun entry => ProxySelector.ofEntry entry.1 entry.2) ↔
      ∃ proxy ∈ proxies, proxy.IsSelector ∧ selector = proxy.selector := by
  rw [List.mem_filterMap]
  constructor
  · rintro ⟨⟨name, value⟩, hentry, hselector⟩
    rw [Std.ExtTreeMap.mem_toList_iff_getElem?_eq_some] at hentry
    obtain ⟨proxy, hproxy, rfl, rfl⟩ := (hfound name value).mp hentry
    exact ⟨proxy, hproxy, (ListedProxy.ofEntry_document (hfields proxy hproxy) selector).mp
      hselector⟩
  · rintro ⟨proxy, hproxy, hselector⟩
    refine ⟨(proxy.name, proxy.document.canonical), ?_,
      (ListedProxy.ofEntry_document (hfields proxy hproxy) selector).mpr hselector⟩
    rw [Std.ExtTreeMap.mem_toList_iff_getElem?_eq_some]
    exact (hfound _ _).mpr ⟨proxy, hproxy, rfl, rfl⟩

/-- The server answers a request for its proxies with the listing. -/
structure Lists (float : UInt64 → List Char) (server : Http.Request → Http.Response)
    (proxies : List ListedProxy) (request : Http.Request) : Prop where
  status : 200 ≤ (server request).status ∧ (server request).status < 300
  body : (server request).body.toList = Document.write float (listing proxies)

lemma interpret_lists {float : UInt64 → List Char} {parse : List Char → Option UInt64}
    {malformed : F} {server : Http.Request → Http.Response} {proxies : List ListedProxy}
    (hreadable : Document.Readable float parse Document.maxDepth (listing proxies))
    {request : Http.Request} (h : Lists float server proxies request) :
    interpret (fromJson parse malformed) (server request).status (server request).body.toList =
      .ok (listing proxies).canonical := by
  have hopen : ∃ rest, Document.write float (listing proxies) = '\x7b' :: rest := ⟨_, rfl⟩
  obtain ⟨rest, hrest⟩ := hopen
  have hspace : ¬(server request).body.toList.all Text.isWhitespace = true := by
    rw [h.body, hrest, List.all_cons]
    exact Bool.false_ne_true
  rw [interpret, if_neg (not_not_intro h.status), if_neg hspace, fromJson, String.toList_ofList,
    h.body, Document.read_write hreadable]
  rfl

/-- A selector with a delay, and a proxy that is none. -/
def twoProxies : List ListedProxy :=
  [⟨"GLOBAL", "Selector", some "DIRECT", some ["DIRECT", "a b"], [("udp", .bool true)]⟩,
    ⟨"DIRECT", "Direct", none, none, []⟩]

/-- A server that lists them. -/
def listsTwo (_ : Http.Request) : Http.Response where
  status := 200
  reason := "OK"
  headers := []
  body := String.ofList (Document.write (fun _ => []) (listing twoProxies))

lemma listsTwo_wellFormed (request : Http.Request) : (listsTwo request).WellFormed where
  reason := by
    change '\r' ∉ "OK".toList ∧ '\n' ∉ "OK".toList
    decide
  headers header hheader := by cases hheader

end Pingling.ClashApi
