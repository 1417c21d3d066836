import Signpost.Main
import Signpost.Reload
import Signpost.Shutdown
import Signpost.Proofs.Negotiation.TokenPattern
import Signpost.Proofs.Negotiation.Choice
import Signpost.Proofs.Server.HotReload
import Signpost.Proofs.Server.ValidSettings
import Signpost.Proofs.Negotiation.Comma
import Signpost.Proofs.Text.Utf8
import Signpost.Proofs.Negotiation.HeaderLines
import Signpost.Proofs.Binary64
import Signpost.Proofs.Text.Blank
import Signpost.Proofs.Weight
import Signpost.Proofs.Negotiation.Policies
import Signpost.Proofs.Negotiation.Grammar
import Signpost.Proofs.Negotiation.ReadBack
import Signpost.Proofs.Text.LowerCase
import Signpost.Proofs.Negotiation.Code
import Signpost.Proofs.Text.Json
import Signpost.Proofs.Server.Integrity
import Signpost.Proofs.Server.Tally
import Signpost.Proofs.Server.Counting
import Signpost.Proofs.Reload
import Signpost.Proofs.CommandLine
import Signpost.Proofs.Shutdown
import Signpost.Proofs.Settings.SiteKeys
import Signpost.Proofs.Negotiation.MalformedFactor
import Signpost.Proofs.Negotiation.FactorOrder
import Signpost.Proofs.Negotiation.SiteEdits
import Signpost.Proofs.Settings.Checks
import Signpost.Proofs.Http.AnnouncedSize
import Signpost.Proofs.Server.Layers
import Signpost.Proofs.Http.SecurityFields
import Signpost.Proofs.Settings.LogLevel
import Signpost.Proofs.Settings.Overlay
import Signpost.Proofs.Negotiation.BeyondAscii
import Signpost.Proofs.SiteMap.OfList
import Signpost.Proofs.Service.Run
