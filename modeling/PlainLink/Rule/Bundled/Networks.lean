/-
# Rules for social networks

The rules for networks whose share links carry the identity of whoever shared them.
-/
import PlainLink.Rule.Bundled.Sites

namespace PlainLink.Bundled

def tiktok : ProviderText where
  urlPattern := "^https?:\\/\\/(?:[a-z0-9-]+\\.)*?tiktok\\.com".toList
  rules := texts [
    "is_copy_url", "is_from_webapp", "sender_device", "sender_web_id", "_r", "_t", "u_code",
    "preview_pb", "timestamp", "user_id", "share_app_name", "share_iid", "share_item_id",
    "share_link_id", "source", "checksum", "sec_uid", "tt_from", "language"]

/-- Rules for the URLs of instagram. -/
def instagram : ProviderText where
  urlPattern := "^https?:\\/\\/(?:[a-z0-9-]+\\.)*?instagram\\.com".toList
  rules := texts ["igshid", "igsh", "img_index"]
  redirections := texts ["^https?:\\/\\/l\\.instagram\\.com\\/.*?u=(https?%3A%2F%2F[^&]+)"]

def spotify : ProviderText where
  urlPattern := "^https?:\\/\\/(?:[a-z0-9-]+\\.)*?spotify\\.com".toList
  rules := texts ["si", "context", "nd", "dlsi"]

/-- Rules for the URLs of linkedin. -/
def linkedin : ProviderText where
  urlPattern := "^https?:\\/\\/(?:[a-z0-9-]+\\.)*?linkedin\\.com".toList
  rules := texts ["trk", "trkEmail", "lipi", "midToken", "midSig", "eid", "otpToken",
    "refId", "trackingId"]
  redirections :=
    texts ["^https?:\\/\\/(?:[a-z0-9-]+\\.)*?linkedin\\.com\\/safety\\/go\\/?\\?.*?url=([^&]+)"]

/-- The networks, in the order in which their rules are applied. -/
def networks : List (Text × ProviderText) :=
  [ ("tiktok".toList, tiktok),
    ("instagram".toList, instagram),
    ("spotify".toList, spotify),
    ("linkedin".toList, linkedin) ]

end PlainLink.Bundled
