import Transit.Product
import Transit.Url.Reader
/-! Settings of the HAFAS provider. -/
namespace Transit.Hafas

structure Config where
  baseUrl : String := "https://v6.db.transport.rest"
  timeoutSecs : Nat := 10
  userAgent : String := "transit-normalize/0.1.0"
  language : String := "en"
  maxResults : Nat := 5
  defaultProducts : ProductSet := .full
  includePolylines : Bool := true
  includeStopovers : Bool := true

namespace Config

def forTesting : Config := { timeoutSecs := 5, maxResults := 3 }

def withBaseUrl (baseUrl : String) : Config := { forTesting with baseUrl }

/-- What is wrong with the settings, if anything is; the first complaint wins. -/
def complaint? (c : Config) : Option String :=
  if c.baseUrl.isEmpty then some "base_url must not be empty"
  else if (Url.ofText? c.baseUrl).isNone then
    some ("base_url is not a valid URL: " ++ c.baseUrl)
  else if c.timeoutSecs = 0 then some "timeout_secs must be greater than 0"
  else if c.maxResults = 0 then some "max_results must be greater than 0"
  else if 50 < c.maxResults then some "max_results must be 50 or less"
  else if c.defaultProducts.isEmpty then some "default_products must not be empty"
  else none

def toJson (c : Config) : Json :=
  .obj [("base_url", .str c.baseUrl), ("timeout_secs", .nat c.timeoutSecs),
    ("user_agent", .str c.userAgent), ("language", .str c.language),
    ("max_results", .nat c.maxResults), ("default_products", c.defaultProducts.toJson),
    ("include_polylines", .bool c.includePolylines),
    ("include_stopovers", .bool c.includeStopovers)]

def fieldNames : List String :=
  ["base_url", "timeout_secs", "user_agent", "language", "max_results", "default_products",
    "include_polylines", "include_stopovers"]

def ofJson? (j : Json) : Option Config := do
  let r ← j.record? fieldNames
  let usual : Config := {}
  some {
    baseUrl := ← r.defaulted "base_url" usual.baseUrl Json.string?
    timeoutSecs := ← r.defaulted "timeout_secs" usual.timeoutSecs Json.count?
    userAgent := ← r.defaulted "user_agent" usual.userAgent Json.string?
    language := ← r.defaulted "language" usual.language Json.string?
    maxResults := ← r.defaulted "max_results" usual.maxResults Json.count?
    defaultProducts := ← r.defaulted "default_products" usual.defaultProducts ProductSet.ofJson?
    includePolylines := ← r.defaulted "include_polylines" usual.includePolylines Json.bool?
    includeStopovers := ← r.defaulted "include_stopovers" usual.includeStopovers Json.bool? }

end Transit.Hafas.Config
