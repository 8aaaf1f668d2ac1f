import ServiceWorker.Url.Basic

/-!
# Configuration

## Main definitions

* `Config.Caching`, `Config.Notices`: the settings for the cache and for notifications
* `Config`: the origin of a worker and its settings
* `Config.ofOrigin`: all settings as they are if nothing is said about them
-/

namespace ServiceWorker

/-- The settings for the cache. -/
structure Config.Caching where
  name : String
  staticPath : String
  excludesScripts : Bool
  prewarm : List String
  path : Option String
  inMemory : Bool
  deriving DecidableEq, Repr

/-- The settings for notifications. -/
structure Config.Notices where
  defaultIcon : String
  messageBody : String
  sessionBody : String
  loginPath : String
  deriving DecidableEq, Repr

/-- The origin of a worker and its settings. -/
structure Config where
  origin : Url
  productName : String
  caching : Config.Caching
  notices : Config.Notices
  deriving DecidableEq, Repr

namespace Config

/-- The icon of a notification that brings none. -/
def icon : String := "/static/icon_144x144.png"

/-- The settings for the cache if nothing is said about them. -/
def Caching.standard : Caching where
  name := "FDX cache"
  staticPath := "/static"
  excludesScripts := true
  prewarm := [icon]
  path := none
  inMemory := false

/-- The settings for notifications if nothing is said about them. -/
def Notices.standard : Notices where
  defaultIcon := icon
  messageBody := "新規メッセージを受信しました。"
  sessionBody := "セッション有効期限切れ"
  loginPath := "/login"

/-- The title of notifications if nothing is said about it. -/
def product : String := "RemoTalk"

/-- All settings as they are if nothing is said about them. -/
def ofOrigin (origin : Url) : Config :=
  ⟨origin, product, Caching.standard, Notices.standard⟩

end Config

end ServiceWorker
