import BuildSettings.Main
import BuildSettings.Proofs.Arguments
import BuildSettings.Proofs.Exported
import BuildSettings.Proofs.FileName
import BuildSettings.Proofs.History
import BuildSettings.Proofs.Influence
import BuildSettings.Proofs.Inquiry
import BuildSettings.Proofs.Layout
import BuildSettings.Proofs.Logging
import BuildSettings.Proofs.Reading
import BuildSettings.Proofs.Rerun
import BuildSettings.Proofs.Spelling
import BuildSettings.Proofs.Variables
import BuildSettings.Proofs.Joining
import BuildSettings.Proofs.Places
import BuildSettings.Proofs.Target
import BuildSettings.Proofs.Interfaces
import BuildSettings.Proofs.Pinned
import BuildSettings.Proofs.Recording
import BuildSettings.Proofs.Tiers
import BuildSettings.Proofs.Message
