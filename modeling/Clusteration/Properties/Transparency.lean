import Clusteration.Front.Proxy

open Charset

namespace Clusteration.Front

/-- The number a `Content-Length` value stands for. -/
def decimal (value : Bytes) : Option Nat :=
  if value ≠ [] ∧ value.all fun b => 48 ≤ b.toNat && b.toNat ≤ 57 then
    some (value.foldl (fun n b => 10 * n + (b.toNat - 48)) 0)
  else none

def kept (headers : List Header) : List Header :=
  headers.filter fun h => !hopByHop.contains h.name.toLower

/-- Every occurrence of an end-to-end header. -/
def endToEnd (headers : List Header) : List (String × Bytes) := lowered (kept headers)

structure Transparent (httpx : Httpx) (up : UpstreamResponse) (down : ProxyResponse) : Prop where
  status : down.statusCode = up.statusCode
  headers : down.headers = endToEnd up.headers
  length : ∀ value ∈ valuesOf "content-length" down.headers,
    decimal value = some down.body.bytes.length
  content : httpx.decode (valuesOf "content-encoding" down.headers) down.body.bytes =
    httpx.decode (valuesOf "content-encoding" (lowered up.headers)) up.body

def UpstreamResponse.codings (up : UpstreamResponse) : List Bytes :=
  valuesOf "content-encoding" (lowered up.headers)

/-- Every `Content-Length` of the response says `n`. -/
def UpstreamResponse.Announces (up : UpstreamResponse) (n : Nat) : Prop :=
  ∀ value ∈ valuesOf "content-length" (lowered up.headers), decimal value = some n

/-- The bodies that come through. -/
inductive BodyPreserved (httpx : Httpx) (up : UpstreamResponse) : Prop
  /-- No coding is named that `httpx` undoes. -/
  | left : httpx.undoes up.codings = false → up.Announces up.body.length → BodyPreserved httpx up
  /-- The body stands for bytes that stand for themselves under the same codings, as the empty
  ones do. -/
  | coded (content : Decoded) : httpx.undoes up.codings = true →
      httpx.decode up.codings up.body = content → httpx.decode up.codings content.bytes = content →
      up.Announces content.bytes.length → BodyPreserved httpx up

/-- The responses that come through: no end-to-end header occurs twice, and where the headers are
taken as UTF-8 those that stay are ASCII; and the body comes through. -/
structure Preserved (httpx : Httpx) (up : UpstreamResponse) : Prop where
  distinct : ((endToEnd up.headers).map Prod.fst).Nodup
  ascii : encoding up.headers = .utf8 → ∀ h ∈ kept up.headers, isAscii h.value = true
  body : BodyPreserved httpx up

theorem toLower_toLower (s : String) : s.toLower.toLower = s.toLower := by
  apply toLower_of_isLowercase
  have hlower : s.toLower.toList = s.toList.map Char.toLower := String.toList_map
  rw [isLowercase, hlower, List.all_eq_true]
  intro c hc
  obtain ⟨d, -, rfl⟩ := List.mem_map.mp hc
  rw [isUpper_toLower, Bool.not_false]

/-- The text of a header among others. -/
def Header.text (headers : List Header) (h : Header) : List Char :=
  ((encoding headers).decode h.value).getD []

theorem encoding_decode {headers : List Header} {h : Header} (hmem : h ∈ headers) :
    (encoding headers).decode h.value = some (h.text headers) := by
  have hsome : ((encoding headers).decode h.value).isSome := by
    unfold encoding
    split
    · next hall => exact List.all_eq_true.mp hall h hmem
    · split
      · next hall => exact List.all_eq_true.mp hall h hmem
      · rfl
  obtain ⟨text, htext⟩ := Option.isSome_iff_exists.mp hsome
  simp [Header.text, htext]

/-- A header text is written as it came, but for one that was taken as UTF-8 and is not ASCII. -/
theorem encode_text_iff {headers : List Header} {h : Header} (hmem : h ∈ headers) :
    encodeLatin1 (h.text headers) = some h.value ↔
      (encoding headers = .utf8 → isAscii h.value = true) := by
  have hdecode := encoding_decode hmem
  cases henc : encoding headers with
  | ascii =>
    rw [henc] at hdecode
    simp [encodeLatin1_decodeAscii hdecode]
  | utf8 =>
    rw [henc] at hdecode
    simp [encodeLatin1_decodeUtf8_iff hdecode]
  | iso88591 =>
    rw [henc] at hdecode
    have htext : decodeLatin1 h.value = h.text headers := Option.some.inj hdecode
    simp [← htext, encodeLatin1_decodeLatin1]

theorem initHeaders_cons (h : String × List Char) (rest : List (String × List Char)) :
    initHeaders (h :: rest) =
      (encodeLatin1 h.2).bind fun value =>
        (initHeaders rest).map fun out => (h.1.toLower, value) :: out := by
  unfold initHeaders
  rw [List.mapM_cons]
  cases encodeLatin1 h.2 with
  | none => rfl
  | some value => exact (Option.map_eq_bind ..).symm

theorem names_initHeaders {pairs : List (String × List Char)} {out : List (String × Bytes)}
    (h : initHeaders pairs = some out) : out.map Prod.fst = pairs.map fun p => p.1.toLower := by
  induction pairs generalizing out with
  | nil =>
    injection h with h
    simp [← h]
  | cons p pairs ih =>
    rw [initHeaders_cons] at h
    obtain ⟨value, _, h⟩ := Option.bind_eq_some_iff.mp h
    obtain ⟨rest, hrest, rfl⟩ := Option.map_eq_some_iff.mp h
    simp [ih hrest]

theorem initHeaders_eq_lowered (text : Header → List Char) (headers : List Header) :
    initHeaders (headers.map fun h => (h.name.toLower, text h)) = some (lowered headers) ↔
      ∀ h ∈ headers, encodeLatin1 (text h) = some h.value := by
  induction headers with
  | nil => simp [initHeaders, lowered]
  | cons h headers ih =>
    rw [List.map_cons, initHeaders_cons, List.forall_mem_cons, ← ih]
    constructor
    · intro heq
      obtain ⟨value, hvalue, heq⟩ := Option.bind_eq_some_iff.mp heq
      obtain ⟨rest, hrest, heq⟩ := Option.map_eq_some_iff.mp heq
      have hparts : (h.name.toLower.toLower, value) = (h.name.toLower, h.value) ∧
          rest = lowered headers := by simpa [lowered] using heq
      have hhead : value = h.value := congrArg Prod.snd hparts.1
      rw [hvalue, hhead, hrest, hparts.2]
      exact ⟨rfl, rfl⟩
    · rintro ⟨hvalue, hrest⟩
      simp [hvalue, hrest, toLower_toLower, lowered]

/-- The headers that are forwarded, as `items` makes them. -/
theorem filter_items (headers : List Header) :
    ((items headers).filter fun h => !hopByHop.contains h.1.toLower) =
      Items.ofPairs (fun old new => old ++ [',', ' '] ++ new)
        ((kept headers).map fun h => (h.name.toLower, h.text headers)) := by
  have hfilter := Items.filter_ofPairs (fun old new : List Char => old ++ [',', ' '] ++ new)
    (fun name : String => !hopByHop.contains name.toLower)
    (headers.map fun h => (h.name.toLower, h.text headers))
  have hkept : (headers.map fun h => (h.name.toLower, h.text headers)).filter
        (fun pair => !hopByHop.contains pair.1.toLower) =
      (kept headers).map fun h => (h.name.toLower, h.text headers) := by
    rw [List.filter_map]
    simp [kept, Function.comp_def, toLower_toLower]
  rw [hkept] at hfilter
  exact hfilter

theorem names_kept (headers : List Header) (text : Header → List Char) :
    ((kept headers).map fun h => (h.name.toLower, text h)).map Prod.fst =
      (endToEnd headers).map Prod.fst := by
  simp [endToEnd, lowered, Function.comp_def]

theorem valuesOf_endToEnd {name : String} (headers : List Header)
    (hname : hopByHop.contains name = false) :
    valuesOf name (endToEnd headers) = valuesOf name (lowered headers) := by
  induction headers with
  | nil => rfl
  | cons h headers ih =>
    unfold valuesOf endToEnd lowered kept at ih ⊢
    cases hhop : hopByHop.contains h.name.toLower with
    | false =>
      by_cases heq : h.name.toLower = name <;> simp_all
    | true =>
      have hne : ¬ h.name.toLower = name := by
        rintro rfl
        rw [hhop] at hname
        cases hname
      simp_all

/-- The headers come through whole just when none is repeated and each can be written as it
came. -/
theorem forwarded_headers_iff (headers : List Header) :
    initHeaders ((items headers).filter fun h => !hopByHop.contains h.1.toLower) =
        some (endToEnd headers) ↔
      ((endToEnd headers).map Prod.fst).Nodup ∧
        (encoding headers = .utf8 → ∀ h ∈ kept headers, isAscii h.value = true) := by
  have hmem : ∀ h ∈ kept headers, h ∈ headers := fun h hh => List.mem_of_mem_filter hh
  have hwritten : initHeaders ((kept headers).map fun h => (h.name.toLower, h.text headers)) =
        some (endToEnd headers) ↔
      (encoding headers = .utf8 → ∀ h ∈ kept headers, isAscii h.value = true) := by
    unfold endToEnd
    rw [initHeaders_eq_lowered]
    constructor
    · intro hall hutf h hh
      exact (encode_text_iff (hmem h hh)).mp (hall h hh) hutf
    · intro hall h hh
      exact (encode_text_iff (hmem h hh)).mpr fun hutf => hall hutf h hh
  rw [filter_items]
  constructor
  · intro hsome
    have hnames := names_initHeaders hsome
    have hnodup := Items.nodup_ofPairs (fun old new : List Char => old ++ [',', ' '] ++ new)
      ((kept headers).map fun h => (h.name.toLower, h.text headers))
    have hlower : ∀ p ∈ Items.ofPairs (fun old new : List Char => old ++ [',', ' '] ++ new)
        ((kept headers).map fun h => (h.name.toLower, h.text headers)), p.1.toLower = p.1 := by
      intro p hp
      have hname := Items.keys_ofPairs_subset _ _ (List.mem_map_of_mem hp)
      rw [List.map_map] at hname
      obtain ⟨h, _, hname⟩ := List.mem_map.mp hname
      rw [← hname]
      exact toLower_toLower h.name
    have hdistinct : ((endToEnd headers).map Prod.fst).Nodup := by
      rw [hnames, List.map_congr_left hlower]
      exact hnodup
    rw [Items.ofPairs_of_nodup _ (by rw [names_kept]; exact hdistinct)] at hsome
    exact ⟨hdistinct, hwritten.mp hsome⟩
  · rintro ⟨hdistinct, hascii⟩
    rw [Items.ofPairs_of_nodup _ (by rw [names_kept]; exact hdistinct)]
    exact hwritten.mpr hascii

/-- A body comes through just when what `aiter_bytes` makes of it is announced and stands for the
same content. -/
theorem bodyPreserved_iff (httpx : Httpx) (up : UpstreamResponse) :
    BodyPreserved httpx up ↔
      up.Announces (httpx.aiterBytes up).bytes.length ∧
        httpx.decode up.codings (httpx.aiterBytes up).bytes = httpx.aiterBytes up := by
  have haiter : httpx.aiterBytes up = httpx.decode up.codings up.body := rfl
  constructor
  · intro h
    cases h with
    | left hleft hlength =>
      have hbody := httpx.decode_left up.codings up.body hleft
      rw [haiter, hbody]
      exact ⟨hlength, hbody⟩
    | coded content hundone hcontent hself hlength =>
      rw [haiter, hcontent]
      exact ⟨hlength, hself⟩
  · rintro ⟨hlength, hself⟩
    cases hundone : httpx.undoes up.codings with
    | false =>
      rw [haiter, httpx.decode_left up.codings up.body hundone] at hlength
      exact .left hundone hlength
    | true => exact .coded _ hundone rfl hself hlength

theorem forward_transparent_iff (httpx : Httpx) (up : UpstreamResponse) :
    (∃ down, forward httpx up = some down ∧ Transparent httpx up down) ↔ Preserved httpx up := by
  have hencoding : valuesOf "content-encoding" (endToEnd up.headers) = up.codings :=
    valuesOf_endToEnd up.headers (by decide)
  have hlengths : valuesOf "content-length" (endToEnd up.headers) =
      valuesOf "content-length" (lowered up.headers) := valuesOf_endToEnd up.headers (by decide)
  constructor
  · rintro ⟨down, hdown, ht⟩
    obtain ⟨headers, hheaders, hdown⟩ := Option.bind_eq_some_iff.mp hdown
    injection hdown with hdown
    subst hdown
    have hheads : headers = endToEnd up.headers := ht.headers
    subst hheads
    have hall := (forwarded_headers_iff up.headers).mp hheaders
    have hlength := ht.length
    rw [hlengths] at hlength
    have hcontent := ht.content
    rw [hencoding] at hcontent
    exact ⟨hall.1, hall.2, (bodyPreserved_iff httpx up).mpr ⟨hlength, hcontent⟩⟩
  · intro h
    have hheaders := (forwarded_headers_iff up.headers).mpr ⟨h.distinct, h.ascii⟩
    obtain ⟨hlength, hcontent⟩ := (bodyPreserved_iff httpx up).mp h.body
    refine ⟨⟨up.statusCode, endToEnd up.headers, httpx.aiterBytes up⟩, ?_, ?_⟩
    · unfold forward
      rw [hheaders]
      rfl
    · refine ⟨rfl, rfl, ?_, ?_⟩
      · rw [hlengths]
        exact hlength
      · rw [hencoding]
        exact hcontent

/-- An answer that is not encoded comes through if its end-to-end headers are distinct and ASCII. -/
theorem preserved_of_plain (httpx : Httpx) {up : UpstreamResponse} (hplain : up.codings = [])
    (hdistinct : ((endToEnd up.headers).map Prod.fst).Nodup)
    (hascii : ∀ h ∈ kept up.headers, isAscii h.value = true)
    (hlength : up.Announces up.body.length) : Preserved httpx up where
  distinct := hdistinct
  ascii := fun _ => hascii
  body := .left (by rw [hplain, httpx.undoes_nil]) hlength

theorem proxyHttp_eq_forward (httpx : Httpx) {resolve : String → Option String}
    (stream : UpstreamRequest → UpstreamResponse) {request : ProxyRequest} {dial : String}
    (hdial : resolve request.host = some dial) (hne : dial ≠ "") :
    proxyHttp httpx resolve stream request = forward httpx (stream (upstreamRequest dial request)) := by
  unfold proxyHttp
  rw [hdial, Option.getD_some, if_neg hne]

/-- The proxy hands a response on unchanged just when it is one of those that come through. -/
theorem proxyHttp_transparent_iff (httpx : Httpx) (resolve : String → Option String)
    (stream : UpstreamRequest → UpstreamResponse) (request : ProxyRequest) (dial : String)
    (hdial : resolve request.host = some dial) (hne : dial ≠ "") :
    (∃ down, proxyHttp httpx resolve stream request = some down ∧
        Transparent httpx (stream (upstreamRequest dial request)) down) ↔
      Preserved httpx (stream (upstreamRequest dial request)) := by
  rw [proxyHttp_eq_forward httpx stream hdial hne]
  exact forward_transparent_iff httpx _

/-- `hi`, compressed by gzip. -/
def zipped : Bytes :=
  [31, 139, 8, 0, 0, 0, 0, 0, 2, 3, 203, 200, 4, 0, 172, 42, 147, 216, 2, 0, 0, 0]

/-- A client that can undo gzip on this one body. Other bodies said to be compressed are broken, and
codings it does not know stay. -/
def gunzip : Httpx where
  undoes values := values = [[103, 122, 105, 112]]
  decode values body :=
    if values = [[103, 122, 105, 112]] then
      if body = zipped then ⟨[104, 105], false⟩ else ⟨[], true⟩
    else ⟨body, false⟩
  undoes_nil := rfl
  decode_left _ _ h := if_neg (of_decide_eq_false h)

def page : UpstreamResponse where
  statusCode := 200
  headers := [⟨"Content-Length", [50], rfl⟩, ⟨"Set-Cookie", [97, 61, 49], rfl⟩]
  body := [104, 105]

def cookiePage : UpstreamResponse where
  statusCode := 200
  headers := [⟨"Set-Cookie", [97, 61, 49], rfl⟩, ⟨"Set-Cookie", [98, 61, 50], rfl⟩]
  body := [104, 105]

def zippedPage : UpstreamResponse where
  statusCode := 200
  headers := [⟨"Content-Encoding", [103, 122, 105, 112], rfl⟩, ⟨"Content-Length", [50, 50], rfl⟩]
  body := zipped

def getPage : ProxyRequest where
  method := "GET"
  path := "/"
  query := ""
  headers := [("host", "web.apps.exemplo.internal")]
  body := []
  client := some "198.51.100.7"

theorem page_preserved : Preserved gunzip page := by
  apply preserved_of_plain
  · decide +kernel
  · decide +kernel
  · decide +kernel
  · unfold UpstreamResponse.Announces
    decide +kernel

theorem proxyHttp_transparent_page :
    ∃ down, proxyHttp gunzip (fun _ => some "10.0.0.7:8080") (fun _ => page) getPage = some down ∧
      Transparent gunzip page down :=
  (proxyHttp_transparent_iff gunzip (fun _ => some "10.0.0.7:8080") (fun _ => page) getPage
    "10.0.0.7:8080" rfl (by decide)).mpr page_preserved

/-- The second cookie is lost, and so is the agreement of a compressed page with its headers. -/
theorem proxyHttp_not_transparent :
    ¬ (∃ down, proxyHttp gunzip (fun _ => some "10.0.0.7:8080") (fun _ => cookiePage) getPage =
        some down ∧ Transparent gunzip cookiePage down) ∧
      ¬ (∃ down, proxyHttp gunzip (fun _ => some "10.0.0.7:8080") (fun _ => zippedPage) getPage =
        some down ∧ Transparent gunzip zippedPage down) := by
  constructor
  · rintro ⟨down, hdown, ht⟩
    have hsent : proxyHttp gunzip (fun _ => some "10.0.0.7:8080") (fun _ => cookiePage) getPage =
        some ⟨200, [("set-cookie", [97, 61, 49, 44, 32, 98, 61, 50])], ⟨[104, 105], false⟩⟩ := by
      decide +kernel
    obtain rfl := Option.some.inj (hsent.symm.trans hdown)
    have hone := congrArg List.length ht.headers
    revert hone
    decide +kernel
  · rintro ⟨down, hdown, ht⟩
    have hsent : proxyHttp gunzip (fun _ => some "10.0.0.7:8080") (fun _ => zippedPage) getPage =
        some ⟨200, [("content-encoding", [103, 122, 105, 112]), ("content-length", [50, 50])],
          ⟨[104, 105], false⟩⟩ := by
      decide +kernel
    obtain rfl := Option.some.inj (hsent.symm.trans hdown)
    have htwo := ht.length [50, 50] (by decide +kernel)
    revert htwo
    decide +kernel

end Clusteration.Front
