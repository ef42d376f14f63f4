import PaymentRelay.Proofs.Http.Route
import PaymentRelay.Proofs.Relay.Handover

/-
  Which invoice a wallet over HTTP is asked about.

  The id of an invoice is put into an address as it is. A reader takes an address apart at its marks
  and undoes the escapes in each part, so it finds the id again only if there is nothing in it that
  it would take for a mark or an escape. Undoing an escape shortens a text, so that no two of these
  can make up for each other (`Percent.length_decode_lt`).
-/

namespace PaymentRelay

/-! ## Escapes -/

namespace Percent

/-- There is an escape in a list of bytes. -/
def hasEscape : List UInt8 → Bool
  | 0x25 :: h :: l :: rest =>
    (hexValue? h).isSome && (hexValue? l).isSome || hasEscape (h :: l :: rest)
  | _ :: rest => hasEscape rest
  | [] => false

theorem length_decode_le (bs : List UInt8) : (decode bs).length ≤ bs.length := by
  fun_induction decode bs with
  | case1 h l rest x y hx hy ih => simp only [List.length_cons]; omega
  | case2 h l rest none ih => simpa using ih
  | case3 b rest plain ih => simpa using ih
  | case4 => exact Nat.le_refl 0

theorem decode_of_not_hasEscape {bs : List UInt8} (plain : hasEscape bs = false) :
    decode bs = bs := by
  fun_induction decode bs with
  | case1 h l rest x y hx hy ih => simp [hasEscape, hx, hy] at plain
  | case2 h l rest none ih =>
    rw [hasEscape, Bool.or_eq_false_iff] at plain
    rw [ih plain.2]
  | case3 b rest other ih =>
    rw [ih]
    rw [hasEscape] at plain
    · exact plain
    · exact other
  | case4 => rfl

/-- Undoing an escape makes a text shorter. -/
theorem length_decode_lt {bs : List UInt8} (escaped : hasEscape bs = true) :
    (decode bs).length < bs.length := by
  fun_induction decode bs with
  | case1 h l rest x y hx hy ih =>
    have shorter := length_decode_le rest
    simp only [List.length_cons]
    omega
  | case2 h l rest none ih =>
    have later : hasEscape (h :: l :: rest) = true := by
      rw [hasEscape, Bool.or_eq_true_iff] at escaped
      refine escaped.resolve_left fun both => ?_
      rw [Bool.and_eq_true_iff] at both
      obtain ⟨x, hx⟩ := Option.isSome_iff_exists.mp both.1
      obtain ⟨y, hy⟩ := Option.isSome_iff_exists.mp both.2
      exact none x y hx hy
    exact Nat.succ_lt_succ (ih later)
  | case3 b rest other ih =>
    rw [hasEscape] at escaped
    · exact Nat.succ_lt_succ (ih escaped)
    · exact other
  | case4 => cases escaped

theorem decode_eq_self_iff {bs : List UInt8} : decode bs = bs ↔ hasEscape bs = false := by
  refine ⟨fun same => ?_, decode_of_not_hasEscape⟩
  by_contra escaped
  have shorter := length_decode_lt (eq_true_of_ne_false escaped)
  rw [same] at shorter
  exact Nat.lt_irrefl _ shorter

end Percent

/-! ## Reading addresses -/

/-- The text before a mark, and the text after it if the mark is there. -/
def cut (mark : Char) : List Char → List Char × Option (List Char)
  | [] => ([], none)
  | c :: cs => if c = mark then ([], some cs) else (c :: (cut mark cs).1, (cut mark cs).2)

section
variable {mark : Char} {cs ds : List Char}

theorem cut_append (free : mark ∉ cs) :
    cut mark (cs ++ ds) = (cs ++ (cut mark ds).1, (cut mark ds).2) := by
  induction cs with
  | nil => rfl
  | cons c cs ih =>
    rw [List.mem_cons, not_or] at free
    obtain ⟨other, later⟩ := free
    rw [List.cons_append, cut, if_neg (Ne.symm other), ih later]
    rfl

theorem cut_mark (free : mark ∉ cs) : cut mark (cs ++ mark :: ds) = (cs, some ds) := by
  rw [cut_append free, cut, if_pos rfl, List.append_nil]

theorem cut_of_not_mem (free : mark ∉ cs) : cut mark cs = (cs, none) := by
  have whole : cut mark (cs ++ []) = (cs ++ [], none) := cut_append free
  rwa [List.append_nil] at whole

theorem cut_snd_eq_none_iff : (cut mark cs).2 = none ↔ mark ∉ cs := by
  induction cs with
  | nil => simp [cut]
  | cons c cs ih =>
    by_cases same : c = mark
    · simp [cut, same]
    · simp [cut, same, ih, Ne.symm same]

theorem cut_fst_prefix (mark : Char) (cs : List Char) :
    ∃ ds, cs = (cut mark cs).1 ++ ds ∧ (mark ∈ cs → ds ≠ []) := by
  induction cs with
  | nil => exact ⟨[], rfl, nofun⟩
  | cons c cs ih =>
    by_cases same : c = mark
    · exact ⟨c :: cs, by simp [cut, same], fun _ => List.cons_ne_nil _ _⟩
    · obtain ⟨ds, whole, some⟩ := ih
      refine ⟨ds, ?_, fun mem => some ?_⟩
      · rw [cut, if_neg same]
        exact congrArg _ whole
      · exact (List.mem_cons.mp mem).resolve_left (Ne.symm same)

end

/-- What a text stands for once the escapes in it are undone. -/
def unescaped (cs : List Char) : List UInt8 := Percent.decode (Utf8.bytes (String.ofList cs))

/-- An address, taken apart at its marks. -/
structure WebAddress where
  path : List Char
  query : Option (List Char)
  fragment : Option (List Char)

namespace WebAddress

/-- The path behind a scheme and a host. -/
def pathOf (cs : List Char) : List Char :=
  ((cs.dropWhile (· ≠ ':')).drop 3).dropWhile (· ≠ '/')

/-- Takes an address apart: at its first number sign, and what is before that at its first question
mark. -/
def read (url : String) : WebAddress :=
  let (whole, fragment) := cut '#' url.toList
  let (place, query) := cut '?' whole
  ⟨pathOf place, query, fragment⟩

/-- The segments of the path. -/
def segments (a : WebAddress) : List (List Char) := (a.path.splitOn '/').tail

/-- The names and values of the query. -/
def parameters (a : WebAddress) : List (List UInt8 × List UInt8) :=
  match a.query with
  | none => []
  | some query =>
    (query.splitOn '&').map fun piece =>
      let (name, value) := cut '=' piece
      (unescaped name, unescaped (value.getD []))

end WebAddress

theorem splitOn_append {mark : Char} {cs ds : List Char} (free : mark ∉ cs) :
    (cs ++ ds).splitOn mark = (ds.splitOn mark).modifyHead (cs ++ ·) := by
  induction cs with
  | nil => exact (congrFun List.modifyHead_id _).symm
  | cons c cs ih =>
    rw [List.mem_cons, not_or] at free
    rw [List.cons_append, List.splitOn, List.splitOnP_cons_eq_if_modifyHead,
      if_neg (by simpa using Ne.symm free.1)]
    have later := ih free.2
    rw [List.splitOn] at later
    rw [later, List.modifyHead_modifyHead]
    rfl

theorem splitOn_eq_singleton_iff {mark : Char} {cs piece : List Char} :
    cs.splitOn mark = [piece] ↔ piece = cs ∧ mark ∉ cs := by
  constructor
  · intro single
    have whole : piece = cs := by
      have joined : [mark].intercalate (cs.splitOn mark) = cs := List.intercalate_splitOn mark
      rwa [single, List.intercalate_singleton] at joined
    have mem : cs ∈ cs.splitOn mark := by
      rw [single, whole]
      exact List.mem_singleton_self _
    exact ⟨whole, Http.Endpoint.not_mem_of_mem_splitOn mem⟩
  · rintro ⟨rfl, free⟩
    exact List.splitOn_eq_singleton free

/-! ## The addresses of a wallet -/

/-- Neither host nor port has a mark in it. -/
def PaydSettings.IsPlain (s : PaydSettings) : Prop :=
  ∀ c ∈ s.host.toList ++ s.port.toList, c ≠ '/' ∧ c ≠ '?' ∧ c ≠ '#'

namespace Payd

section
variable {s : PaydSettings} {publicUrl id : String}

theorem baseUrl_toList (s : PaydSettings) :
    s.baseUrl.toList = (if s.secure then "https".toList else "http".toList) ++
      ':' :: '/' :: '/' :: (s.host.toList ++ s.port.toList) := by
  rw [PaydSettings.baseUrl, originOf, String.toList_append, String.toList_append]
  cases s.secure <;> rfl

theorem pathOf_baseUrl (plain : s.IsPlain) (cs : List Char) :
    WebAddress.pathOf (s.baseUrl.toList ++ '/' :: cs) = '/' :: cs := by
  have host : ∀ c ∈ s.host.toList ++ s.port.toList, decide (c ≠ '/') = true :=
    fun c mem => decide_eq_true (plain c mem).1
  have scheme : ((s.baseUrl.toList ++ '/' :: cs).dropWhile (· ≠ ':')).drop 3 =
      (s.host.toList ++ s.port.toList) ++ '/' :: cs := by
    rw [baseUrl_toList]
    cases s.secure <;> rfl
  rw [WebAddress.pathOf, scheme, List.dropWhile_append_of_pos host]
  rfl

theorem free_baseUrl (plain : s.IsPlain) : '#' ∉ s.baseUrl.toList ∧ '?' ∉ s.baseUrl.toList := by
  have hash : '#' ∉ s.host.toList ++ s.port.toList := fun mem => (plain _ mem).2.2 rfl
  have question : '?' ∉ s.host.toList ++ s.port.toList := fun mem => (plain _ mem).2.1 rfl
  rw [baseUrl_toList]
  cases s.secure <;> simp_all

/-- An address at a wallet is taken apart behind its origin. -/
theorem read_baseUrl (plain : s.IsPlain) {url : String} {cs : List Char}
    (whole : url.toList = s.baseUrl.toList ++ '/' :: cs) :
    WebAddress.read url =
      ⟨'/' :: (cut '?' (cut '#' cs).1).1, (cut '?' (cut '#' cs).1).2, (cut '#' cs).2⟩ := by
  obtain ⟨hash, question⟩ := free_baseUrl plain
  have slash (mark : Char) (other : '/' ≠ mark) (ds : List Char) :
      cut mark ('/' :: ds) = ('/' :: (cut mark ds).1, (cut mark ds).2) := by rw [cut, if_neg other]
  rw [WebAddress.read, whole, cut_append hash, slash _ (by decide)]
  dsimp only
  rw [cut_append question, slash _ (by decide)]
  dsimp only
  rw [pathOf_baseUrl plain]

/-- The address of the payments is taken apart at its question mark, and at no other place before
the id. -/
theorem read_paymentsUrl (plain : s.IsPlain) :
    WebAddress.read ((ofSettings s publicUrl).paymentsUrl id) =
      ⟨"/api/v1/payments".toList, some ("invoiceID=".toList ++ (cut '#' id.toList).1),
        (cut '#' id.toList).2⟩ := by
  have whole : ((ofSettings s publicUrl).paymentsUrl id).toList =
      s.baseUrl.toList ++ '/' :: ("api/v1/payments".toList ++ '?' :: ("invoiceID=".toList ++
        id.toList)) := by
    simp [paymentsUrl, ofSettings]
  have hash : '#' ∉ "api/v1/payments".toList ++ '?' :: "invoiceID=".toList := by decide
  have question : '?' ∉ "api/v1/payments".toList := by decide
  have before : cut '#' ("api/v1/payments".toList ++ '?' :: ("invoiceID=".toList ++ id.toList)) =
      ("api/v1/payments".toList ++ '?' :: ("invoiceID=".toList ++ (cut '#' id.toList).1),
        (cut '#' id.toList).2) := by
    simpa using @cut_append _ _ id.toList hash
  rw [read_baseUrl plain whole, before]
  dsimp only
  rw [cut_mark question]
  rfl

/-- The address of the destinations has no mark of its own but slashes. -/
theorem read_destinationsUrl (plain : s.IsPlain) :
    WebAddress.read ((ofSettings s publicUrl).destinationsUrl id) =
      ⟨"/api/v1/destinations/".toList ++ (cut '?' (cut '#' id.toList).1).1,
        (cut '?' (cut '#' id.toList).1).2, (cut '#' id.toList).2⟩ := by
  have whole : ((ofSettings s publicUrl).destinationsUrl id).toList =
      s.baseUrl.toList ++ '/' :: ("api/v1/destinations/".toList ++ id.toList) := by
    simp [destinationsUrl, ofSettings]
  rw [read_baseUrl plain whole, cut_append (by decide)]
  dsimp only
  rw [cut_append (by decide)]
  rfl

/-- The parameters of the address of the payments. -/
theorem parameters_paymentsUrl (plain : s.IsPlain) (publicUrl id : String) :
    ∃ piece pieces, (cut '#' id.toList).1.splitOn '&' = piece :: pieces ∧
      (WebAddress.read ((ofSettings s publicUrl).paymentsUrl id)).parameters =
        (Utf8.bytes "invoiceID", unescaped piece) :: pieces.map fun piece =>
          (unescaped (cut '=' piece).1, unescaped ((cut '=' piece).2.getD [])) := by
  cases pieces : (cut '#' id.toList).1.splitOn '&' with
  | nil => exact absurd pieces (List.splitOn_ne_nil _ _)
  | cons piece pieces' =>
    refine ⟨piece, pieces', rfl, ?_⟩
    have mark : "invoiceID=".toList = "invoiceID".toList ++ ['='] := by decide +kernel
    have named : cut '=' ("invoiceID=".toList ++ piece) = ("invoiceID".toList, some piece) := by
      rw [mark, List.append_assoc, List.singleton_append, cut_mark (by decide)]
    have name : unescaped "invoiceID".toList = Utf8.bytes "invoiceID" := by decide +kernel
    rw [read_paymentsUrl plain, WebAddress.parameters]
    dsimp only
    rw [splitOn_append (by decide), pieces, List.modifyHead_cons, List.map_cons, named, ← name]
    rfl

theorem segments_destinationsUrl (plain : s.IsPlain) (publicUrl id : String) :
    (WebAddress.read ((ofSettings s publicUrl).destinationsUrl id)).segments =
      "api".toList :: "v1".toList :: "destinations".toList ::
        (cut '?' (cut '#' id.toList).1).1.splitOn '/' := by
  have before : ("/api/v1/destinations".toList).splitOnP (· == '/') =
      [[], "api".toList, "v1".toList, "destinations".toList] := by decide +kernel
  have path : "/api/v1/destinations/".toList = "/api/v1/destinations".toList ++ ['/'] := by
    decide +kernel
  have mark : ('/' == '/') = true := rfl
  rw [read_destinationsUrl plain, WebAddress.segments, List.splitOn]
  dsimp only
  rw [path, List.append_assoc, List.singleton_append,
    List.splitOnP_append_cons (p := (· == '/')) _ _ mark, before]
  rfl

/-! ## Ids that are found again -/

/-- The address of the payments has one parameter, and that is the invoice. -/
def PaysFor (w : Payd) (id : String) : Prop :=
  let a := WebAddress.read (w.paymentsUrl id)
  a.path = "/api/v1/payments".toList ∧ a.parameters = [(Utf8.bytes "invoiceID", Utf8.bytes id)]

/-- The address of the destinations has one segment more than it always has, and that is the
invoice. -/
def FundsOf (w : Payd) (id : String) : Prop :=
  let a := WebAddress.read (w.destinationsUrl id)
  a.query = none ∧ a.fragment = none ∧ ∃ last,
    a.segments = ["api".toList, "v1".toList, "destinations".toList, last] ∧
    unescaped last = Utf8.bytes id

theorem size_lt_of_mem_mark {mark : Char} {cs : List Char} (mem : mark ∈ cs) :
    Utf8.size (cut mark cs).1 < Utf8.size cs := by
  obtain ⟨ds, whole, some⟩ := cut_fst_prefix mark cs
  cases ds with
  | nil => exact absurd rfl (some mem)
  | cons d ds =>
    have pos := d.utf8Size_pos
    have size := congrArg Utf8.size whole
    rw [Utf8.size_append, Utf8.size] at size
    omega

/-- What is cut off of a text is not made up for by its escapes. -/
theorem unescaped_cut_ne {mark : Char} (mem : mark ∈ id.toList) :
    unescaped (cut mark id.toList).1 ≠ Utf8.bytes id := by
  intro same
  have shorter := size_lt_of_mem_mark mem
  have decoded := Percent.length_decode_le (Utf8.bytes (String.ofList (cut mark id.toList).1))
  have size := congrArg List.length same
  rw [unescaped] at size
  rw [size, Utf8.length_bytes, Utf8.length_bytes, String.toList_ofList] at decoded
  omega

theorem unescaped_toList_iff :
    unescaped id.toList = Utf8.bytes id ↔ Percent.hasEscape (Utf8.bytes id) = false := by
  rw [unescaped, String.ofList_toList, Percent.decode_eq_self_iff]

theorem paysFor_iff (plain : s.IsPlain) :
    (ofSettings s publicUrl).PaysFor id ↔
      '#' ∉ id.toList ∧ '&' ∉ id.toList ∧ Percent.hasEscape (Utf8.bytes id) = false := by
  have path : (WebAddress.read ((ofSettings s publicUrl).paymentsUrl id)).path =
      "/api/v1/payments".toList := by rw [read_paymentsUrl plain]
  obtain ⟨piece, pieces, split, parameters⟩ :=
    parameters_paymentsUrl plain publicUrl id
  rw [PaysFor, parameters]
  constructor
  · rintro ⟨-, single⟩
    injection single with first others
    obtain rfl : pieces = [] := List.map_eq_nil_iff.mp others
    obtain ⟨rfl, free⟩ := splitOn_eq_singleton_iff.mp split
    have value : unescaped (cut '#' id.toList).1 = Utf8.bytes id := congrArg Prod.snd first
    have hash : '#' ∉ id.toList := fun mem => unescaped_cut_ne mem value
    rw [cut_of_not_mem hash] at free value
    exact ⟨hash, free, unescaped_toList_iff.mp value⟩
  · rintro ⟨hash, free, escapes⟩
    rw [cut_of_not_mem hash, splitOn_eq_singleton_iff.mpr ⟨rfl, free⟩] at split
    cases split
    rw [unescaped_toList_iff.mpr escapes]
    exact ⟨path, rfl⟩

theorem fundsOf_iff (plain : s.IsPlain) :
    (ofSettings s publicUrl).FundsOf id ↔
      '#' ∉ id.toList ∧ '?' ∉ id.toList ∧ '/' ∉ id.toList ∧
        Percent.hasEscape (Utf8.bytes id) = false := by
  have segments := segments_destinationsUrl plain publicUrl id
  rw [FundsOf, segments, read_destinationsUrl plain]
  dsimp only
  constructor
  · rintro ⟨query, fragment, last, same, value⟩
    have hash := cut_snd_eq_none_iff.mp fragment
    rw [cut_of_not_mem hash] at query same
    have question := cut_snd_eq_none_iff.mp query
    rw [cut_of_not_mem question] at same
    simp only [List.cons.injEq, true_and] at same
    obtain ⟨rfl, slash⟩ := splitOn_eq_singleton_iff.mp same
    exact ⟨hash, question, slash, unescaped_toList_iff.mp value⟩
  · rintro ⟨hash, question, slash, escapes⟩
    rw [cut_of_not_mem hash]
    dsimp only
    rw [cut_of_not_mem question, splitOn_eq_singleton_iff.mpr ⟨rfl, slash⟩]
    exact ⟨rfl, rfl, id.toList, rfl, unescaped_toList_iff.mpr escapes⟩

end

/-- Whether a wallet over HTTP is asked about an invoice depends on the marks and the escapes in its
id, since the id stands in the addresses as it is. The payments are submitted at one path, whatever
the id is, and their first parameter has one name; it is their only one and has the id as its value
just for an id without `#`, `&` and escapes. The destinations are looked up below one path; the id
is the one segment below it, without a query or a fragment, just for an id without `#`, `?`, `/` and
escapes. -/
theorem addresses_invoice_iff {s : PaydSettings} (plain : s.IsPlain) (publicUrl id : String) :
    let w := ofSettings s publicUrl
    let payments := WebAddress.read (w.paymentsUrl id)
    let destinations := WebAddress.read (w.destinationsUrl id)
    (payments.path = "/api/v1/payments".toList ∧
      ∃ value others, payments.parameters = (Utf8.bytes "invoiceID", value) :: others) ∧
    (w.PaysFor id ↔
      '#' ∉ id.toList ∧ '&' ∉ id.toList ∧ Percent.hasEscape (Utf8.bytes id) = false) ∧
    (∃ below, destinations.segments =
      "api".toList :: "v1".toList :: "destinations".toList :: below) ∧
    (w.FundsOf id ↔
      '#' ∉ id.toList ∧ '?' ∉ id.toList ∧ '/' ∉ id.toList ∧
        Percent.hasEscape (Utf8.bytes id) = false) := by
  refine ⟨⟨?path, ?parameter⟩, paysFor_iff plain, ⟨_, segments_destinationsUrl plain publicUrl id⟩,
    fundsOf_iff plain⟩
  case path => rw [read_paymentsUrl plain]
  case parameter =>
    obtain ⟨piece, pieces, -, parameters⟩ := parameters_paymentsUrl plain publicUrl id
    exact ⟨_, _, parameters⟩

theorem isPlain_default : PaydSettings.IsPlain {} := by
  have free : "payd:8443".toList.all (fun c => c ≠ '/' ∧ c ≠ '?' ∧ c ≠ '#') = true := by
    decide +kernel
  intro c mem
  exact of_decide_eq_true (List.all_eq_true.mp free c mem)

theorem addresses_invoice_iff_plain :
    (ofSettings {} "").PaysFor "inv-1" ∧ (ofSettings {} "").FundsOf "inv-1" := by
  obtain ⟨-, payments, -, destinations⟩ := addresses_invoice_iff isPlain_default "" "inv-1"
  exact ⟨payments.mpr (by decide +kernel), destinations.mpr (by decide +kernel)⟩

/-- A payment whose invoice id has a mark in it, which is encoded in the path. -/
def twoInvoices : Http.Request :=
  { Http.Request.nested 1 with path := "/api/v1/payment/inv-1%26invoiceID=inv-2" }

theorem accepts_twoInvoices :
    Http.Verdict.of false twoInvoices =
      .errand (.payment ⟨"inv-1&invoiceID=inv-2"⟩ (.nested 1)) := by
  have path : Http.Endpoint.ofPath? false twoInvoices.path =
      some (.payment "inv-1%26invoiceID=inv-2") := by decide +kernel
  have decoded : Percent.text? (Utf8.bytes "inv-1%26invoiceID=inv-2") =
      some "inv-1&invoiceID=inv-2" := by decide +kernel
  have short : (Slip.nested 1).encode.size ≤ Http.bodyLimit := by decide +kernel
  have body : twoInvoices.jsonBody Slip.payment = .ok (.nested 1) :=
    Http.Request.jsonBody_nested (by decide) short
  have head : twoInvoices.isHead = false := rfl
  have get : twoInvoices.isGet = false := rfl
  have post : twoInvoices.method = "POST" := rfl
  simp only [Http.Verdict.of, path, head, Http.Verdict.atEndpoint, get, post, Bool.false_eq_true,
    if_false, if_true, Http.Verdict.payment, Http.Endpoint.segment, decoded, Http.Verdict.withText,
    Http.Verdict.withBody, body]
  rfl

/-- The payer chooses an id with a mark in it: a payment is submitted for two invoices, and the
outputs are those of another invoice. An id that is encoded once more is that of another invoice. -/
theorem other_invoice_addressed :
    let w := ofSettings {} ""
    (¬w.PaysFor "inv-1&invoiceID=inv-2" ∧
      (WebAddress.read (w.paymentsUrl "inv-1&invoiceID=inv-2")).parameters =
        [(Utf8.bytes "invoiceID", Utf8.bytes "inv-1"),
          (Utf8.bytes "invoiceID", Utf8.bytes "inv-2")] ∧
      ∀ client, ∃ i,
        (Relay.payd w).request twoInvoices Relay.sampleStamp = (Relay.payd w, .answer i) ∧
        (i.run client).1 = [⟨.post, w.paymentsUrl "inv-1&invoiceID=inv-2", 204,
          some (Slip.nested 1).encode.canonical⟩]) ∧
    (¬w.FundsOf "inv-2?inv-1" ∧
      (WebAddress.read (w.destinationsUrl "inv-2?inv-1")).segments =
        ["api".toList, "v1".toList, "destinations".toList, "inv-2".toList]) ∧
    ¬w.PaysFor "inv-%31" ∧
      (WebAddress.read (w.paymentsUrl "inv-%31")).parameters =
        [(Utf8.bytes "invoiceID", Utf8.bytes "inv-1")] := by
  refine ⟨⟨?_, by decide +kernel, fun client => ?_⟩, ⟨?_, by decide +kernel⟩, ?_, by decide +kernel⟩
  · rw [paysFor_iff isPlain_default]
    decide +kernel
  · exact Relay.payment_submitted _ client accepts_twoInvoices
  · rw [fundsOf_iff isPlain_default]
    decide +kernel
  · rw [paysFor_iff isPlain_default]
    decide +kernel

end Payd

end PaymentRelay
