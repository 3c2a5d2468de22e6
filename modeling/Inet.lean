import Inet.Address.Lemmas
import Inet.Datum
import Inet.Outline.Error
import Inet.Proofs.BlockInclusion
import Inet.Proofs.BlockRange
import Inet.Proofs.BlockSize
import Inet.Proofs.CanonicalText
import Inet.Proofs.DottedQuad
import Inet.Proofs.FamilyChoice
import Inet.Proofs.Filling
import Inet.Proofs.FixedSize
import Inet.Proofs.GroupFault
import Inet.Proofs.LetterCase
import Inet.Proofs.NumericOrder
import Inet.Proofs.Obtainable
import Inet.Proofs.OctetFault
import Inet.Proofs.PaddedOrder
import Inet.Proofs.PlaceValue
import Inet.Proofs.PrefixBlock
import Inet.Session
import Inet.Space
